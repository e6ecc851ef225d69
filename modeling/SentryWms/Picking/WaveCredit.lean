import SentryWms.Picking.Frame

/-!
# What a wave pick credits

A wave task serves several order lines. Confirming it credits every line with its
whole part of the task, picking it short hands the units out along the breakdown.
Both are a loop over parts of the task, and what such a loop credits is read off
the parts.
-/

namespace SentryWms

open Relational Transition

/-! ## What is counted -/

/-- `quantity_picked` of an order line; a line that is gone has none. -/
def Store.linePicked (store : Store) (soLineId : ℕ) : ℤ :=
  ((store.salesOrderLines.get? soLineId).map SalesOrderLine.quantityPicked).getD 0

/-- `quantity_picked` of a breakdown row. -/
def Store.rowPicked (store : Store) (breakdownId : ℕ) : ℤ :=
  ((store.wavePickBreakdown.get? breakdownId).map
    WavePickBreakdown.quantityPicked).getD 0

def Store.credits (store : Store) : Table SalesOrderLine × Table WavePickBreakdown :=
  (store.salesOrderLines, store.wavePickBreakdown)

variable {store : Store}

theorem linePicked_congr {store' : Store} (hcredits : store.credits = store'.credits)
    (soLineId : ℕ) : store.linePicked soLineId = store'.linePicked soLineId := by
  rw [Store.linePicked, Store.linePicked, (Prod.mk.inj hcredits).1]

theorem rowPicked_congr {store' : Store} (hcredits : store.credits = store'.credits)
    (breakdownId : ℕ) : store.rowPicked breakdownId = store'.rowPicked breakdownId := by
  rw [Store.rowPicked, Store.rowPicked, (Prod.mk.inj hcredits).2]

def contributors (rows : List (ℕ × WavePickBreakdown)) : Finset ℕ :=
  (rows.filterMap fun entry => entry.2.soLineId).toFinset

/-- What the rows that name a line carry together. -/
def sumOver (soLineId : ℕ) (value : ℕ × WavePickBreakdown → ℤ)
    (rows : List (ℕ × WavePickBreakdown)) : ℤ :=
  (rows.map fun entry =>
    if entry.2.soLineId = some soLineId then value entry else 0).sum

structure CreditsExactly (store after : Store) (rows : List (ℕ × WavePickBreakdown))
    (quantity : ℤ) : Prop where
  /-- The contributing lines grow by the units picked. -/
  total : ∑ soLineId ∈ contributors rows,
    (after.linePicked soLineId - store.linePicked soLineId) = quantity
  /-- No line grows by more than its part of the task. -/
  bounded : ∀ soLineId, after.linePicked soLineId - store.linePicked soLineId ≤
    sumOver soLineId (fun entry => entry.2.quantity) rows
  /-- A line grows by what its rows record. -/
  matched : ∀ soLineId, after.linePicked soLineId - store.linePicked soLineId =
    sumOver soLineId
      (fun entry => after.rowPicked entry.1 - store.rowPicked entry.1) rows
  /-- The rows record the units picked. -/
  recorded : (rows.map fun entry =>
    after.rowPicked entry.1 - store.rowPicked entry.1).sum = quantity

/-! ## A loop over parts -/

/-- A breakdown row with the units it gets. -/
abbrev Part := (ℕ × WavePickBreakdown) × ℤ

def creditParts (change : Part → WavePickBreakdown → WavePickBreakdown)
    (store : Store) (parts : List Part) : Store :=
  parts.foldl (fun store part =>
    store.recordBreakdown part.1.1 (change part) part.1.2.soLineId part.2) store

section Parts

variable {store : Store} {change : Part → WavePickBreakdown → WavePickBreakdown}

variable {soLineId : ℕ}

theorem linePicked_bumpPicked (hline : soLineId ∈ store.salesOrderLines.keys)
    (named : Option ℕ) (quantity : ℤ) :
    (store.bumpPicked named quantity).linePicked soLineId =
      store.linePicked soLineId + if named = some soLineId then quantity else 0 := by
  obtain ⟨⟨key, line⟩, hmem, rfl⟩ := List.mem_map.mp hline
  have hget := (store.salesOrderLines.get?_eq_some).mpr hmem
  cases named with
  | none => simp [Store.bumpPicked]
  | some named =>
      by_cases hsame : named = key
      · subst hsame
        simp [Store.bumpPicked, Store.linePicked, Table.modify, hget]
      · have hother := store.salesOrderLines.get?_modify_of_ne (Ne.symm hsame)
          fun line => { line with quantityPicked := line.quantityPicked + quantity }
        rw [Store.linePicked, Store.bumpPicked, hother, if_neg (by simpa using hsame),
          add_zero, Store.linePicked]

theorem bumpPicked_keys (store : Store) (named : Option ℕ) (quantity : ℤ) :
    (store.bumpPicked named quantity).salesOrderLines.keys =
      store.salesOrderLines.keys := by
  cases named with
  | none => rfl
  | some named => exact Table.mapRows_keys _ _

theorem bumpPicked_wavePickBreakdown (store : Store) (named : Option ℕ) (quantity : ℤ) :
    (store.bumpPicked named quantity).wavePickBreakdown = store.wavePickBreakdown := by
  cases named <;> rfl

theorem creditParts_cons (store : Store) (part : Part) (parts : List Part) :
    creditParts change store (part :: parts) =
      creditParts change (store.recordBreakdown part.1.1 (change part)
        part.1.2.soLineId part.2) parts := rfl

theorem linePicked_creditParts (hline : soLineId ∈ store.salesOrderLines.keys)
    (parts : List Part) :
    (creditParts change store parts).linePicked soLineId =
      store.linePicked soLineId +
        (parts.map fun part =>
          if part.1.2.soLineId = some soLineId then part.2 else 0).sum := by
  induction parts generalizing store with
  | nil => simp [creditParts]
  | cons part parts ih =>
      have hkept : soLineId ∈ (store.recordBreakdown part.1.1 (change part)
          part.1.2.soLineId part.2).salesOrderLines.keys := by
        rw [Store.recordBreakdown, bumpPicked_keys]
        exact hline
      have hbump : (store.recordBreakdown part.1.1 (change part) part.1.2.soLineId
          part.2).linePicked soLineId = store.linePicked soLineId +
            if part.1.2.soLineId = some soLineId then part.2 else 0 := by
        rw [Store.recordBreakdown, linePicked_bumpPicked]
        · rfl
        · exact hline
      rw [creditParts_cons, ih hkept, List.map_cons, List.sum_cons, ← add_assoc, hbump]

theorem linePicked_creditParts_of_not_mem (hline : soLineId ∉ store.salesOrderLines.keys)
    (parts : List Part) :
    (creditParts change store parts).linePicked soLineId = store.linePicked soLineId := by
  have hnone : ∀ {store : Store}, soLineId ∉ store.salesOrderLines.keys →
      store.linePicked soLineId = 0 := by
    intro store hline
    cases hget : store.salesOrderLines.get? soLineId with
    | none => simp [Store.linePicked, hget]
    | some line =>
        exact absurd (List.mem_map_of_mem ((Table.get?_eq_some _).mp hget)) hline
  rw [hnone hline]
  induction parts generalizing store with
  | nil => exact hnone hline
  | cons part parts ih =>
      rw [creditParts_cons]
      apply ih
      rw [Store.recordBreakdown, bumpPicked_keys]
      exact hline

theorem rowPicked_creditParts_of_not_mem {breakdownId : ℕ} {parts : List Part}
    (hother : ∀ part ∈ parts, part.1.1 ≠ breakdownId) :
    (creditParts change store parts).rowPicked breakdownId =
      store.rowPicked breakdownId := by
  induction parts generalizing store with
  | nil => rfl
  | cons part parts ih =>
      have hhead := hother part List.mem_cons_self
      rw [creditParts_cons, ih fun part hpart => hother part (List.mem_cons_of_mem _ hpart)]
      rw [Store.rowPicked, Store.recordBreakdown, bumpPicked_wavePickBreakdown,
        Table.get?_modify_of_ne _ (Ne.symm hhead), Store.rowPicked]

theorem rowPicked_creditParts {parts : List Part}
    (hnodup : (parts.map fun part => part.1.1).Nodup)
    (hrows : ∀ part ∈ parts, part.1 ∈ store.wavePickBreakdown.entries)
    (hchange : ∀ part ∈ parts, (change part part.1.2).quantityPicked = part.2)
    {part : Part} (hpart : part ∈ parts) :
    (creditParts change store parts).rowPicked part.1.1 = part.2 := by
  induction parts generalizing store with
  | nil => cases hpart
  | cons head parts ih =>
      rw [List.map_cons, List.nodup_cons] at hnodup
      have hhead : ∀ part ∈ parts, part.1.1 ≠ head.1.1 := fun part hpart heq =>
        hnodup.1 (heq ▸ List.mem_map_of_mem (f := fun part : Part => part.1.1) hpart)
      rw [creditParts_cons]
      rcases List.mem_cons.mp hpart with rfl | hrest
      · have hget := (store.wavePickBreakdown.get?_eq_some).mpr
          (hrows part List.mem_cons_self)
        rw [rowPicked_creditParts_of_not_mem hhead, Store.rowPicked,
          Store.recordBreakdown, bumpPicked_wavePickBreakdown]
        simpa [Table.modify, hget] using hchange part List.mem_cons_self
      · apply ih hnodup.2 _ (fun part hpart => hchange part (List.mem_cons_of_mem _ hpart))
          hrest
        intro part hpart
        rw [Store.recordBreakdown, bumpPicked_wavePickBreakdown]
        refine (Table.mem_modify _).mpr ⟨part.1.2,
          hrows part (List.mem_cons_of_mem _ hpart), ?_⟩
        exact if_neg (hhead part hpart)

end Parts

/-! ## What the parts have to be -/

variable {rows : List (ℕ × WavePickBreakdown)}

theorem mem_contributors {soLineId : ℕ} :
    soLineId ∈ contributors rows ↔ ∃ entry ∈ rows, entry.2.soLineId = some soLineId := by
  simp [contributors]

theorem sum_lines {lines : Finset ℕ} {parts : List Part}
    (hnamed : ∀ part ∈ parts, ∀ soLineId, part.1.2.soLineId = some soLineId →
      soLineId ∈ lines) :
    ∑ soLineId ∈ lines, (parts.map fun part =>
        if part.1.2.soLineId = some soLineId then part.2 else 0).sum =
      (parts.map fun part => if part.1.2.soLineId = none then 0 else part.2).sum := by
  induction parts with
  | nil => simp
  | cons part parts ih =>
      have hhead : (∑ soLineId ∈ lines,
          if part.1.2.soLineId = some soLineId then part.2 else 0) =
          if part.1.2.soLineId = none then 0 else part.2 := by
        cases hline : part.1.2.soLineId with
        | none => simp
        | some soLineId =>
            have hmem := hnamed part List.mem_cons_self soLineId hline
            simp [hmem]
      simp only [List.map_cons, List.sum_cons]
      rw [Finset.sum_add_distrib, hhead, ih]
      exact fun part hpart => hnamed part (List.mem_cons_of_mem _ hpart)

theorem sum_unnamed (parts : List Part) :
    (parts.map Prod.snd).sum =
      (parts.map fun part => if part.1.2.soLineId = none then 0 else part.2).sum +
        (parts.map fun part => if part.1.2.soLineId = none then part.2 else 0).sum := by
  rw [← List.sum_map_add]
  congr 1
  apply List.map_congr_left
  intro part _
  split <;> simp

/-- Where a loop over the parts of a breakdown credits exactly a quantity: the
parts make up the quantity, and those that name no line are empty. -/
theorem creditParts_iff {start after : Store}
    {change : Part → WavePickBreakdown → WavePickBreakdown} {parts : List Part}
    (hstart : start.credits = store.credits)
    (hafter : after.credits = (creditParts change start parts).credits)
    (hrows : parts.map Prod.fst = rows) (hnodup : (rows.map Prod.fst).Nodup)
    (hmem : ∀ entry ∈ rows, entry ∈ store.wavePickBreakdown.entries)
    (huntouched : ∀ entry ∈ rows, entry.2.quantityPicked = 0)
    (hnamed : ∀ entry ∈ rows, ∀ soLineId, entry.2.soLineId = some soLineId → soLineId ∈ store.salesOrderLines.keys)
    (hchange : ∀ part ∈ parts, (change part part.1.2).quantityPicked = part.2)
    (hpart : ∀ part ∈ parts, 0 ≤ part.2 ∧ part.2 ≤ part.1.2.quantity) (quantity : ℤ) :
    CreditsExactly store after rows quantity ↔
      (parts.map Prod.snd).sum = quantity ∧
        ∀ part ∈ parts, part.1.2.soLineId = none → part.2 = 0 := by
  subst hrows
  obtain ⟨hstartLines, hstartRows⟩ := Prod.mk.inj hstart
  -- A line grows by the parts that name it, also where no row can name it.
  have hgrowth : ∀ soLineId, after.linePicked soLineId - store.linePicked soLineId =
      (parts.map fun part =>
        if part.1.2.soLineId = some soLineId then part.2 else 0).sum := by
    intro soLineId
    rw [linePicked_congr hafter, ← linePicked_congr hstart]
    by_cases hline : soLineId ∈ start.salesOrderLines.keys
    · rw [linePicked_creditParts hline, add_sub_cancel_left]
    · rw [linePicked_creditParts_of_not_mem hline, sub_self, eq_comm]
      apply List.sum_eq_zero
      intro summand hsummand
      obtain ⟨part, hmemPart, rfl⟩ := List.mem_map.mp hsummand
      apply if_neg
      intro hname
      apply hline
      rw [hstartLines]
      exact hnamed part.1 (List.mem_map_of_mem hmemPart) soLineId hname
  have hrecord : ∀ part ∈ parts, after.rowPicked part.1.1 - store.rowPicked part.1.1 =
      part.2 := by
    intro part hmemPart
    have hentry := hmem part.1 (List.mem_map_of_mem hmemPart)
    have hget := (store.wavePickBreakdown.get?_eq_some).mpr hentry
    have hbefore : store.rowPicked part.1.1 = 0 := by
      simpa [Store.rowPicked, hget] using huntouched part.1 (List.mem_map_of_mem hmemPart)
    rw [rowPicked_congr hafter, hbefore, sub_zero]
    apply rowPicked_creditParts _ _ hchange hmemPart
    · rw [List.map_map] at hnodup
      exact hnodup
    · intro part hpart
      rw [hstartRows]
      exact hmem part.1 (List.mem_map_of_mem hpart)
  have hrecorded : ((parts.map Prod.fst).map fun entry =>
      after.rowPicked entry.1 - store.rowPicked entry.1).sum = (parts.map Prod.snd).sum := by
    rw [List.map_map]
    congr 1
    exact List.map_congr_left hrecord
  have htotal : (∑ soLineId ∈ contributors (parts.map Prod.fst),
      (after.linePicked soLineId - store.linePicked soLineId)) =
      (parts.map fun part => if part.1.2.soLineId = none then 0 else part.2).sum := by
    rw [Finset.sum_congr rfl fun soLineId _ => hgrowth soLineId]
    apply sum_lines
    intro part hmemPart soLineId hname
    exact mem_contributors.mpr ⟨part.1, List.mem_map_of_mem hmemPart, hname⟩
  have hunnamed : ∀ summand ∈ parts.map fun part : Part =>
      if part.1.2.soLineId = none then part.2 else 0, 0 ≤ summand := by
    intro summand hsummand
    obtain ⟨part, hmemPart, rfl⟩ := List.mem_map.mp hsummand
    split
    · exact (hpart part hmemPart).1
    · rfl
  have hsplit := sum_unnamed parts
  constructor
  · intro hcredits
    have hsum := hrecorded.symm.trans hcredits.recorded
    refine ⟨hsum, ?_⟩
    intro part hmemPart hnone
    have hzero : (parts.map fun part : Part =>
        if part.1.2.soLineId = none then part.2 else 0).sum = 0 := by
      have := htotal.symm.trans hcredits.total
      omega
    have hle := List.single_le_sum hunnamed _ (List.mem_map_of_mem hmemPart)
    rw [if_pos hnone, hzero] at hle
    exact le_antisymm hle (hpart part hmemPart).1
  · rintro ⟨hsum, hempty⟩
    refine ⟨?_, ?_, ?_, hrecorded.trans hsum⟩
    · rw [htotal, ← hsum]
      congr 1
      apply List.map_congr_left
      intro part hmemPart
      split
      · exact (hempty part hmemPart ‹_›).symm
      · rfl
    · intro soLineId
      rw [hgrowth, sumOver, List.map_map]
      apply List.sum_le_sum
      intro part hmemPart
      rw [Function.comp_apply]
      split
      · exact (hpart part hmemPart).2
      · rfl
    · intro soLineId
      rw [hgrowth, sumOver, List.map_map]
      congr 1
      apply List.map_congr_left
      intro part hmemPart
      rw [Function.comp_apply, hrecord part hmemPart]

/-! ## Handing units out -/

/-- Give a quantity to the rows in order, each at most its part of the task. -/
def giveOut : ℤ → List (ℕ × WavePickBreakdown) → List Part
  | _, [] => []
  | remaining, entry :: rest =>
      (entry, min remaining entry.2.quantity) ::
        giveOut (remaining - min remaining entry.2.quantity) rest

def assigned (rows : List (ℕ × WavePickBreakdown)) : ℤ :=
  (rows.map fun entry => entry.2.quantity).sum

theorem giveOut_fst (remaining : ℤ) (rows : List (ℕ × WavePickBreakdown)) :
    (giveOut remaining rows).map Prod.fst = rows := by
  induction rows generalizing remaining with
  | nil => rfl
  | cons entry rows ih => rw [giveOut, List.map_cons, ih]

section GiveOut

variable {rows : List (ℕ × WavePickBreakdown)}

theorem assigned_nonneg (hrows : ∀ entry ∈ rows, 0 < entry.2.quantity) :
    0 ≤ assigned rows := by
  apply List.sum_nonneg
  intro quantity hquantity
  obtain ⟨entry, hentry, rfl⟩ := List.mem_map.mp hquantity
  exact (hrows entry hentry).le

variable {remaining : ℤ}

theorem mem_giveOut (hrows : ∀ entry ∈ rows, 0 < entry.2.quantity) (hremaining : 0 ≤ remaining)
    {part : Part} (hpart : part ∈ giveOut remaining rows) :
    0 ≤ part.2 ∧ part.2 ≤ part.1.2.quantity := by
  induction rows generalizing remaining with
  | nil => cases hpart
  | cons entry rows ih =>
      have hhead := hrows entry List.mem_cons_self
      rcases List.mem_cons.mp hpart with rfl | hrest
      · exact ⟨le_min hremaining hhead.le, min_le_right _ _⟩
      · exact ih (fun entry hentry => hrows entry (List.mem_cons_of_mem _ hentry))
          (by omega) hrest

theorem sum_giveOut (hrows : ∀ entry ∈ rows, 0 < entry.2.quantity) (hremaining : 0 ≤ remaining)
    (hle : remaining ≤ assigned rows) :
    ((giveOut remaining rows).map Prod.snd).sum = remaining := by
  induction rows generalizing remaining with
  | nil =>
      have : remaining ≤ 0 := hle
      simp only [giveOut, List.map_nil, List.sum_nil]
      omega
  | cons entry rows ih =>
      have hassigned : assigned (entry :: rows) = entry.2.quantity + assigned rows := rfl
      have hrest := assigned_nonneg fun entry hentry =>
        hrows entry (List.mem_cons_of_mem _ hentry)
      rw [giveOut, List.map_cons, List.sum_cons,
        ih (fun entry hentry => hrows entry (List.mem_cons_of_mem _ hentry))
          (by omega) (by omega)]
      omega

theorem giveOut_assigned (hrows : ∀ entry ∈ rows, 0 < entry.2.quantity) :
    giveOut (assigned rows) rows = rows.map fun entry => (entry, entry.2.quantity) := by
  induction rows with
  | nil => rfl
  | cons entry rows ih =>
      have hassigned : assigned (entry :: rows) = entry.2.quantity + assigned rows := rfl
      have hrest := assigned_nonneg fun entry hentry =>
        hrows entry (List.mem_cons_of_mem _ hentry)
      have hmin : min (assigned (entry :: rows)) entry.2.quantity = entry.2.quantity := by
        omega
      rw [giveOut, hmin, hassigned, add_sub_cancel_left,
        ih fun entry hentry => hrows entry (List.mem_cons_of_mem _ hentry)]
      rfl

theorem giveOut_unnamed_iff (hrows : ∀ entry ∈ rows, 0 < entry.2.quantity)
    (hremaining : 0 ≤ remaining) :
    (∀ part ∈ giveOut remaining rows, part.1.2.soLineId = none → part.2 = 0) ↔
      ∀ before entry behind, rows = before ++ entry :: behind →
        entry.2.soLineId = none → remaining ≤ assigned before := by
  induction rows generalizing remaining with
  | nil =>
      constructor
      · intro _ before entry behind hsplit
        simp at hsplit
      · intro _ part hpart
        cases hpart
  | cons head rows ih =>
      have hhead := hrows head List.mem_cons_self
      have htail : ∀ entry ∈ rows, 0 < entry.2.quantity := fun entry hentry =>
        hrows entry (List.mem_cons_of_mem _ hentry)
      have hrec := ih htail (show 0 ≤ remaining - min remaining head.2.quantity by omega)
      rw [giveOut, List.forall_mem_cons, hrec]
      constructor
      · rintro ⟨hfirst, hrest⟩ before entry behind hsplit hnone
        cases before with
        | nil =>
            obtain ⟨rfl, -⟩ := List.cons.inj hsplit
            have hzero := hfirst hnone
            have hnothing : assigned [] = 0 := rfl
            dsimp only at hzero
            omega
        | cons first before =>
            obtain ⟨rfl, hbehind⟩ := List.cons.inj hsplit
            have hle := hrest before entry behind hbehind hnone
            have hassigned : assigned (head :: before) =
              head.2.quantity + assigned before := rfl
            omega
      · intro hall
        refine ⟨?_, ?_⟩
        · intro hnone
          have hle := hall [] head rows rfl hnone
          have hnothing : assigned [] = 0 := rfl
          dsimp only
          omega
        · intro before entry behind hsplit hnone
          have hle := hall (head :: before) entry behind (by rw [hsplit]; rfl) hnone
          have hassigned : assigned (head :: before) =
            head.2.quantity + assigned before := rfl
          have hbefore : 0 ≤ assigned before := assigned_nonneg fun entry hentry =>
            htail entry (hsplit ▸ List.mem_append_left _ hentry)
          omega

end GiveOut

/-! ## The two operations -/

theorem confirmPick_salesOrder_spec {after : Store} {pickTaskId : ℕ} {scannedBarcode : String}
    {quantityPicked : ℤ} {task : PickTask} {soId : ℕ} {soLineId : Option ℕ}
    (htask : store.pendingTask pickTaskId = .ok task)
    (htarget : task.target = .salesOrder soId soLineId)
    (hconfirm : confirmPick store pickTaskId scannedBarcode quantityPicked = .ok after) :
    quantityPicked ≤ task.quantityToPick ∧
      after = (confirmLines
        { store with
          pickTasks := store.pickTasks.modify pickTaskId fun task =>
            { task with status := .picked, quantityPicked } }
        pickTaskId soLineId quantityPicked).consume task quantityPicked := by
  obtain ⟨task', htask', hrest⟩ := bind_eq_ok.mp hconfirm
  obtain rfl := Except.ok.inj (htask.symm.trans htask')
  split at hrest
  next => cases hrest
  next hover =>
    refine ⟨Int.not_lt.mp hover, ?_⟩
    split at hrest
    next => cases hrest
    next item _ =>
      split at hrest
      next => cases hrest
      next =>
        simp only [htarget] at hrest
        exact (Except.ok.inj hrest).symm

/-- Picking in full or short. -/
inductive PickOp where
  | confirmPick (scannedBarcode : String)
  | shortPick

def PickOp.run (store : Store) (pickTaskId : ℕ) (quantity : ℤ) :
    PickOp → Except PickError Store
  | .confirmPick scannedBarcode =>
      SentryWms.confirmPick store pickTaskId scannedBarcode quantity
  | .shortPick => SentryWms.shortPick store pickTaskId quantity

/-- The quantities the request schemas let through. -/
def PickOp.Admits : PickOp → ℤ → Prop
  | .confirmPick _, quantity => 0 < quantity
  | .shortPick, quantity => 0 ≤ quantity

/-- A pending wave task as `wave_create` leaves it: its rows are positive, make up
the task and have not been picked. The line of a row may be gone since, but what a
row names is there. -/
structure WaveTask (store : Store) (pickTaskId : ℕ) (task : PickTask) : Prop where
  pending : store.pendingTask pickTaskId = .ok task
  target : ∃ soId soLineId, task.target = .salesOrder soId soLineId
  wave : store.breakdown pickTaskId ≠ []
  sum : assigned (store.breakdown pickTaskId) = task.quantityToPick
  positive : ∀ entry ∈ store.breakdown pickTaskId, 0 < entry.2.quantity
  untouched : ∀ entry ∈ store.breakdown pickTaskId, entry.2.quantityPicked = 0
  named : ∀ entry ∈ store.breakdown pickTaskId, ∀ soLineId,
    entry.2.soLineId = some soLineId → soLineId ∈ store.salesOrderLines.keys

/-- The loop of `confirm_pick` credits every row with its whole part. -/
theorem confirmLines_wave {pickTaskId : ℕ} (hwave : store.breakdown pickTaskId ≠ [])
    (soLineId : Option ℕ) (quantity : ℤ) :
    confirmLines store pickTaskId soLineId quantity =
      creditParts (fun _ row => { row with quantityPicked := row.quantity }) store
        ((store.breakdown pickTaskId).map fun entry => (entry, entry.2.quantity)) := by
  rw [creditParts, List.foldl_map, confirmLines]
  split
  next hempty => exact absurd hempty hwave
  next first rest hrows => rw [hrows]

/-- The loop of `short_pick` hands the available units out. -/
theorem shortBreakdown_eq_creditParts (hrows : ∀ entry ∈ rows, 0 < entry.2.quantity)
    {remaining : ℤ} (hremaining : 0 ≤ remaining) :
    shortBreakdown store remaining rows =
      creditParts (fun part row =>
        { row with quantityPicked := part.2, shortQuantity := row.quantity - part.2 })
        store (giveOut remaining rows) := by
  induction rows generalizing store remaining with
  | nil => rfl
  | cons entry rows ih =>
      obtain ⟨breakdownId, row⟩ := entry
      have hhead := hrows (breakdownId, row) List.mem_cons_self
      have hgive : max 0 (min remaining row.quantity) = min remaining row.quantity := by
        dsimp only at hhead
        omega
      rw [shortBreakdown, giveOut, creditParts_cons, hgive,
        ih (fun entry hentry => hrows entry (List.mem_cons_of_mem _ hentry)) (by omega)]

section Credits

variable {store after : Store} {pickTaskId : ℕ} {task : PickTask} {quantity : ℤ}

theorem breakdown_nodup (store : Store) (pickTaskId : ℕ) :
    ((store.breakdown pickTaskId).map Prod.fst).Nodup :=
  ((orderBy_perm _ _).map Prod.fst).nodup_iff.mpr
    (store.wavePickBreakdown.select_nodup _)

theorem mem_breakdown {entry : ℕ × WavePickBreakdown}
    (hentry : entry ∈ store.breakdown pickTaskId) :
    entry ∈ store.wavePickBreakdown.entries :=
  (store.wavePickBreakdown.mem_select.mp (mem_orderBy.mp hentry)).1

theorem confirmPick_credits_iff (hwave : WaveTask store pickTaskId task)
    {scannedBarcode : String}
    (hconfirm : confirmPick store pickTaskId scannedBarcode quantity = .ok after) :
    CreditsExactly store after (store.breakdown pickTaskId) quantity ↔
      task.quantityToPick = quantity ∧
        ∀ part ∈ giveOut task.quantityToPick (store.breakdown pickTaskId),
          part.1.2.soLineId = none → part.2 = 0 := by
  obtain ⟨soId, soLineId, htarget⟩ := hwave.target
  obtain ⟨-, rfl⟩ := confirmPick_salesOrder_spec hwave.pending htarget hconfirm
  have hnonneg : 0 ≤ task.quantityToPick := hwave.sum ▸ assigned_nonneg hwave.positive
  have hparts : ((store.breakdown pickTaskId).map fun entry =>
      (entry, entry.2.quantity)) = giveOut task.quantityToPick
        (store.breakdown pickTaskId) := by
    rw [← hwave.sum, giveOut_assigned hwave.positive]
  let picked : Store :=
    { store with
      pickTasks := store.pickTasks.modify pickTaskId fun task =>
        { task with status := .picked, quantityPicked := quantity } }
  have hlines : ((confirmLines picked pickTaskId soLineId quantity).consume task
      quantity).credits = (creditParts
        (fun _ row => { row with quantityPicked := row.quantity }) picked
        (giveOut task.quantityToPick (store.breakdown pickTaskId))).credits := by
    have hpicked : picked.breakdown pickTaskId ≠ [] := hwave.wave
    change (confirmLines picked pickTaskId soLineId quantity).credits = _
    rw [confirmLines_wave hpicked, ← hparts]
    rfl
  have hpicked : picked.credits = store.credits := rfl
  rw [creditParts_iff hpicked hlines (giveOut_fst _ _) (breakdown_nodup store pickTaskId)
    (fun entry => mem_breakdown) hwave.untouched hwave.named _
    (fun part hpart => mem_giveOut hwave.positive hnonneg hpart),
    sum_giveOut hwave.positive hnonneg hwave.sum.ge]
  intro part hpart
  rw [← hparts] at hpart
  obtain ⟨entry, -, rfl⟩ := List.mem_map.mp hpart
  rfl

theorem shortPick_credits_iff (hwave : WaveTask store pickTaskId task)
    (hquantity : 0 ≤ quantity)
    (hshort : shortPick store pickTaskId quantity = .ok after) :
    CreditsExactly store after (store.breakdown pickTaskId) quantity ↔
      ∀ part ∈ giveOut quantity (store.breakdown pickTaskId),
        part.1.2.soLineId = none → part.2 = 0 := by
  obtain ⟨task', htask', hle, rfl⟩ := shortPick_spec hshort
  obtain rfl := Except.ok.inj (hwave.pending.symm.trans htask')
  let shorted : Store := Store.consume
    { store with
      pickTasks := store.pickTasks.modify pickTaskId fun task =>
        { task with status := .short, quantityPicked := quantity } }
    task quantity
  have hlines : (shortLines shorted pickTaskId task.target.soLineId quantity).credits =
      (creditParts
        (fun part row =>
          { row with
            quantityPicked := part.2, shortQuantity := row.quantity - part.2 })
        shorted (giveOut quantity (store.breakdown pickTaskId))).credits := by
    rw [← shortBreakdown_eq_creditParts hwave.positive hquantity, shortLines]
    split
    next hempty => exact absurd hempty hwave.wave
    next first rest hrows => rw [← hrows]; rfl
  have hshorted : shorted.credits = store.credits := rfl
  rw [creditParts_iff hshorted hlines (giveOut_fst _ _) (breakdown_nodup store pickTaskId)
    (fun entry => mem_breakdown) hwave.untouched hwave.named (fun part _ => rfl)
    (fun part hpart => mem_giveOut hwave.positive hquantity hpart),
    sum_giveOut hwave.positive hquantity (hwave.sum ▸ hle)]
  exact and_iff_right rfl

/-- A pick of a wave task credits its lines with exactly the units picked if and
only if it is a short pick or a confirmation of the whole task, and the units are
used up before the part of a line that is gone. -/
theorem creditsExactly_iff (hwave : WaveTask store pickTaskId task) {op : PickOp}
    (hadmits : op.Admits quantity) (hrun : op.run store pickTaskId quantity = .ok after) :
    CreditsExactly store after (store.breakdown pickTaskId) quantity ↔
      (op = .shortPick ∨ quantity = task.quantityToPick) ∧
        ∀ before entry behind,
          store.breakdown pickTaskId = before ++ entry :: behind →
          entry.2.soLineId = none → quantity ≤ assigned before := by
  cases op with
  | confirmPick scannedBarcode =>
      have hquantity : 0 ≤ quantity := le_of_lt hadmits
      rw [confirmPick_credits_iff hwave hrun]
      constructor
      · rintro ⟨rfl, hparts⟩
        exact ⟨.inr rfl, (giveOut_unnamed_iff hwave.positive hquantity).mp hparts⟩
      · rintro ⟨hop | rfl, hbefore⟩
        · cases hop
        · exact ⟨rfl, (giveOut_unnamed_iff hwave.positive hquantity).mpr hbefore⟩
  | shortPick =>
      rw [shortPick_credits_iff hwave hadmits hrun,
        giveOut_unnamed_iff hwave.positive hadmits]
      exact (and_iff_right (.inl rfl)).symm

end Credits

/-! ## A task over two lines -/

def twoOrderStore : Store where
  items := .ofRows [{ sku := "A", upc := some "1", barcodeAliases := [] }]
  bins := .ofRows [{ warehouseId := 1, binCode := "P1", binType := .pickable, pickSequence := 1 }]
  inventory := .ofRows
    [{ itemId := 1, binId := 1, warehouseId := 1, quantityOnHand := 5,
       quantityAllocated := 0, lotNumber := none, updatedAt := 0 }]
  salesOrders := .ofRows
    [{ soNumber := "SO-1", soBarcode := none, status := .open, warehouseId := 1,
       orderType := .sale, parentSoId := none, cancellationReason := none },
     { soNumber := "SO-2", soBarcode := none, status := .open, warehouseId := 1,
       orderType := .sale, parentSoId := none, cancellationReason := none }]
  salesOrderLines := .ofRows
    [{ soId := 1, itemId := 1, lineNumber := 1, quantityOrdered := 2,
       quantityAllocated := 0, quantityPicked := 0 },
     { soId := 2, itemId := 1, lineNumber := 1, quantityOrdered := 3,
       quantityAllocated := 0, quantityPicked := 0 }]

/-- The wave over both orders: one task for five units. -/
def waveStore : Store :=
  match waveCreate twoOrderStore [1, 2] 1 "ann" [] with
  | .ok (store, _) => store
  | .error _ => twoOrderStore

def waveTask : PickTask :=
  { batchId := 1, target := .salesOrder 1 (some 1), itemId := 1, binId := 1,
    quantityToPick := 5, quantityPicked := 0, pickSequence := 1,
    toteNumber := some "WAVE", status := .pending }

theorem waveStore_waveTask : WaveTask waveStore 1 waveTask where
  pending := by rfl
  target := ⟨1, some 1, rfl⟩
  wave := by decide +kernel
  sum := by rfl
  positive := by decide +kernel
  untouched := by decide +kernel
  named := by
    intro entry hentry soLineId hname
    have hkeys : ∀ entry ∈ waveStore.breakdown 1,
        ∀ soLineId ∈ entry.2.soLineId.toList,
          soLineId ∈ waveStore.salesOrderLines.keys := by decide +kernel
    exact hkeys entry hentry soLineId (by rw [hname]; exact List.mem_singleton_self _)

/-- The store once a quantity of the task is confirmed or picked short. -/
def waveStoreAfter (op : PickOp) (quantity : ℤ) : Store :=
  match op.run waveStore 1 quantity with
  | .ok store => store
  | .error _ => waveStore

/-- Three of five units picked short are credited where they went. -/
theorem credits_shortPick_three :
    CreditsExactly waveStore (waveStoreAfter .shortPick 3) (waveStore.breakdown 1) 3 := by
  have hrun : PickOp.shortPick.run waveStore 1 3 = .ok (waveStoreAfter .shortPick 3) := rfl
  have hadmits : PickOp.shortPick.Admits 3 := show (0 : ℤ) ≤ 3 by decide
  apply (creditsExactly_iff waveStore_waveTask hadmits hrun).mpr
  refine ⟨.inl rfl, ?_⟩
  intro before entry behind hsplit hnone
  have hentry : entry ∈ waveStore.breakdown 1 := by rw [hsplit]; simp
  have hsome : ∀ entry ∈ waveStore.breakdown 1, entry.2.soLineId ≠ none := by
    decide +kernel
  exact absurd hnone (hsome entry hentry)

/-- Confirming one of five units credits both orders in full. -/
theorem confirmPick_one_of_five :
    WaveTask waveStore 1 waveTask ∧ (PickOp.confirmPick "1").Admits 1 ∧
      (PickOp.confirmPick "1").run waveStore 1 1 =
        .ok (waveStoreAfter (.confirmPick "1") 1) ∧
      ¬ CreditsExactly waveStore (waveStoreAfter (.confirmPick "1") 1)
        (waveStore.breakdown 1) 1 := by
  refine ⟨waveStore_waveTask, Int.one_pos, rfl, ?_⟩
  intro hcredits
  have hrecorded : ((waveStore.breakdown 1).map fun entry =>
      (waveStoreAfter (.confirmPick "1") 1).rowPicked entry.1 -
        waveStore.rowPicked entry.1).sum = 5 := by decide +kernel
  have hfive := hrecorded.symm.trans hcredits.recorded
  omega

end SentryWms
