import SentryWms.Auth.LoginPhases

/-!
# What the steps leave of the phases

A step keeps the invariant of the key, and leaves what the other sessions know. Most steps
have nothing to do with the key; the cleanup deletes its row only when there is nothing to
remember; and the login that is past the lockout check is alone with it.
-/

namespace SentryWms.Auth

open ReadCommitted Interleaving Window

variable {τ : Type} [Field τ] [LinearOrder τ] [FloorRing τ]

/-! ## The invariant -/

structure GuessInvariant (config : Config) (key : String) (db : Database τ) : Prop where
  committed : ∃ row, (db.loginAttempts key).committed = some row
  ordered : ∀ check ∈ checksOf db key, check ≤ db.clock
  bounded : GuessesBounded config key db
  remembers : recorded db key = true →
    Remembers config (checksOf db key) db.clock (db.loginAttempts key)
  writer : ∀ writer committed latest,
    db.loginAttempts key = .written writer committed latest →
      (writer, key) ∈ db.inFlight ∨ latest = none

variable {config : Config} {library : Library τ} {key : String} {db mid after : Database τ}
  {txn other : ℕ} {self standing : Standing τ}

omit [Field τ] [LinearOrder τ] [FloorRing τ] in
theorem recorded_iff : recorded db key = true ↔
    (∀ txn, (txn, key) ∉ db.inFlight) ∧ key ∉ db.abandoned := by
  rw [recorded, Bool.and_eq_true, List.all_eq_true, Bool.not_eq_true', Bool.eq_false_iff,
    ne_eq, List.contains_iff_mem]
  constructor
  · rintro ⟨hall, habandoned⟩
    exact ⟨fun txn hmem => by simpa using hall _ hmem, habandoned⟩
  · rintro ⟨hnone, habandoned⟩
    refine ⟨fun entry hmem => ?_, habandoned⟩
    rw [bne_iff_ne]
    rintro rfl
    exact hnone entry.1 hmem

/-- A step of a transaction that leaves the logins of the key, and what they know of its
row. -/
structure Frame (config : Config) (key : String) (db after : Database τ) (txn : ℕ) : Prop where
  clock : db.clock ≤ after.clock
  checks : checksOf after key = checksOf db key
  inFlight : ∀ other, (other, key) ∈ after.inFlight ↔ (other, key) ∈ db.inFlight
  abandoned : key ∈ after.abandoned ↔ key ∈ db.abandoned
  began : ∀ other ≠ txn, after.began other = db.began other
  committed : (∃ row, (db.loginAttempts key).committed = some row) →
    ∃ row, (after.loginAttempts key).committed = some row
  remembers : ∀ checks, Remembers config checks db.clock (db.loginAttempts key) →
    Remembers config checks after.clock (after.loginAttempts key)
  unlocked : Unlocked db.clock (db.loginAttempts key) →
    Unlocked after.clock (after.loginAttempts key)
  writer : ∀ writer committed latest,
    after.loginAttempts key = .written writer committed latest →
      db.loginAttempts key = .written writer committed latest ∨ writer = txn ∧ latest = none
  held : ∀ other ≠ txn, ∀ committed latest,
    db.loginAttempts key = .written other committed latest →
      after.loginAttempts key = .written other committed latest

omit [Field τ] [LinearOrder τ] [FloorRing τ] in
theorem heldBy_eq_none {version : Version (Option (Attempts τ))} :
    version.heldBy txn = none ↔ ∀ committed latest, version ≠ .written txn committed latest := by
  cases version with
  | stable value => exact iff_of_true rfl (by rintro _ _ ⟨⟩)
  | written writer committed latest =>
      rw [Version.heldBy]
      split
      · next hwriter =>
          exact iff_of_false (Option.some_ne_none _) fun hne =>
            hne committed latest (by rw [hwriter])
      · next hwriter =>
          refine iff_of_true rfl fun committed' latest' heq => ?_
          injection heq with hwriter'
          exact hwriter hwriter'

omit [FloorRing τ] in
theorem Alone.frame (hframe : Frame config key db after txn) (halone : Alone db key other) :
    Alone after key other :=
  ⟨(hframe.inFlight other).mpr halone.1,
    fun third hthird => halone.2.1 third ((hframe.inFlight third).mp hthird),
    fun habandoned => halone.2.2 (hframe.abandoned.mp habandoned)⟩

omit [FloorRing τ] in
theorem Frame.heldBy (hframe : Frame config key db after txn) (hother : other ≠ txn)
    (hheld : (db.loginAttempts key).heldBy other = none) :
    (after.loginAttempts key).heldBy other = none := by
  rw [heldBy_eq_none] at hheld ⊢
  intro committed latest heq
  rcases hframe.writer other committed latest heq with hbefore | ⟨hsame, -⟩
  · exact hheld committed latest hbefore
  · exact hother hsame

omit [FloorRing τ] in
theorem Frame.wrote (hframe : Frame config key db after txn) (hother : other ≠ txn)
    {holds holds' : Attempts τ → Prop} (hwrote : Wrote db key other holds)
    (hmono : ∀ row, holds row → holds' row) : Wrote after key other holds' := by
  obtain ⟨committed, row, hversion, hrow⟩ := hwrote
  exact ⟨committed, row, hframe.held other hother _ _ hversion, hmono row hrow⟩

omit [FloorRing τ] in
/-- What another session knows stays as it is. -/
theorem Frame.phase (hframe : Frame config key db after txn) (hother : other ≠ txn)
    {phase : Phase τ} (hholds : PhaseHolds config key db other phase) :
    PhaseHolds config key after other phase := by
  have hchecks := hframe.checks
  cases phase with
  | outside =>
      exact ⟨fun hmem => hholds.1 ((hframe.inFlight other).mp hmem),
        hframe.heldBy hother hholds.2⟩
  | cleaning => exact fun hmem => hholds ((hframe.inFlight other).mp hmem)
  | admitted =>
      obtain ⟨halone, hheld, hremembers, hunlocked⟩ := hholds
      refine ⟨halone.frame hframe, hframe.heldBy hother hheld, ?_, hframe.unlocked hunlocked⟩
      rw [hchecks]
      exact hframe.remembers _ hremembers
  | checked last =>
      obtain ⟨halone, hheld, hlast, before, heq, hordered, hremembers, hunlocked⟩ := hholds
      exact ⟨halone.frame hframe, hframe.heldBy hother hheld, hlast.trans hframe.clock, before,
        hchecks.trans heq, hordered, hframe.remembers _ hremembers, hframe.unlocked hunlocked⟩
  | counted last =>
      obtain ⟨halone, hordered, hwrote⟩ := hholds
      refine ⟨halone.frame hframe, hchecks ▸ hordered, hframe.wrote hother hwrote ?_⟩
      intro row hcounted
      rw [hchecks]
      exact hcounted.later hframe.clock
  | seen last attempts =>
      obtain ⟨halone, hordered, hwrote⟩ := hholds
      refine ⟨halone.frame hframe, hchecks ▸ hordered, hframe.wrote hother hwrote ?_⟩
      rintro row ⟨hattempts, hcounted⟩
      rw [hchecks]
      exact ⟨hattempts, hcounted.later hframe.clock⟩
  | written =>
      obtain ⟨halone, hwrote⟩ := hholds
      refine ⟨halone.frame hframe, hframe.wrote hother hwrote ?_⟩
      intro row hremembers
      rw [hchecks]
      exact hremembers.later hframe.clock

omit [FloorRing τ] in
theorem Frame.agrees (hframe : Frame config key db after txn) (hother : other ≠ txn)
    (hagrees : Agrees config key db other standing) : Agrees config key after other standing where
  phase := hframe.phase hother hagrees.phase
  fresh := fun hfresh => (hframe.began other hother).trans (hagrees.fresh hfresh)
  now := fun now hnow => (hagrees.now now hnow).trans hframe.clock

omit [FloorRing τ] in
theorem Frame.invariant (hframe : Frame config key db after txn)
    (hinvariant : GuessInvariant config key db) : GuessInvariant config key after where
  committed := hframe.committed hinvariant.committed
  ordered := by
    rw [hframe.checks]
    exact fun check hcheck => (hinvariant.ordered check hcheck).trans hframe.clock
  bounded := by
    rw [GuessesBounded, hframe.checks]
    exact hinvariant.bounded
  remembers := by
    intro hrecorded
    obtain ⟨hnone, habandoned⟩ := recorded_iff.mp hrecorded
    rw [hframe.checks]
    refine hframe.remembers _ (hinvariant.remembers (recorded_iff.mpr ⟨fun other hmem => ?_, ?_⟩))
    · exact hnone other ((hframe.inFlight other).mpr hmem)
    · exact fun hmem => habandoned (hframe.abandoned.mpr hmem)
  writer := by
    intro writer committed latest hversion
    rcases hframe.writer writer committed latest hversion with hbefore | ⟨-, hnone⟩
    · exact (hinvariant.writer writer committed latest hbefore).imp_left
        (hframe.inFlight writer).mpr
    · exact .inr hnone

/-- A step keeps the invariant, and leaves the other sessions where they stand. -/
structure Moves (config : Config) (key : String) (db after : Database τ) (txn : ℕ) : Prop where
  invariant : GuessInvariant config key after
  others : ∀ other ≠ txn, ∀ standing, Agrees config key db other standing →
    Agrees config key after other standing

omit [FloorRing τ] in
theorem Frame.moves (hframe : Frame config key db after txn)
    (hinvariant : GuessInvariant config key db) : Moves config key db after txn :=
  ⟨hframe.invariant hinvariant, fun _ hother _ hagrees => hframe.agrees hother hagrees⟩

omit [FloorRing τ] in
theorem Moves.trans (hfirst : Moves config key db mid txn)
    (hsecond : Moves config key mid after txn) : Moves config key db after txn :=
  ⟨hsecond.invariant, fun other hother standing hagrees =>
    hsecond.others other hother standing (hfirst.others other hother standing hagrees)⟩

/-! ## Steps that leave the row -/

omit [FloorRing τ] in
theorem Frame.ofRow (hrow : after.loginAttempts key = db.loginAttempts key)
    (hclock : db.clock ≤ after.clock) (hchecks : checksOf after key = checksOf db key)
    (hinFlight : ∀ other, (other, key) ∈ after.inFlight ↔ (other, key) ∈ db.inFlight)
    (habandoned : key ∈ after.abandoned ↔ key ∈ db.abandoned)
    (hbegan : ∀ other ≠ txn, after.began other = db.began other) :
    Frame config key db after txn where
  clock := hclock
  checks := hchecks
  inFlight := hinFlight
  abandoned := habandoned
  began := hbegan
  committed := by
    rw [hrow]
    exact id
  remembers := by
    intro checks hremembers
    rw [hrow]
    exact hremembers.later hclock
  unlocked := by
    intro hunlocked
    rw [hrow]
    exact hunlocked.later hclock
  writer := fun _ _ _ hversion => .inl (hrow ▸ hversion)
  held := fun _ _ _ _ hversion => hrow.trans hversion

/-- The step is nobody's as far as the key is concerned. -/
def Unrelated (config : Config) (key : String) (db after : Database τ) : Prop :=
  ∀ txn, Frame config key db after txn

omit [FloorRing τ] in
theorem Unrelated.refl (config : Config) (key : String) (db : Database τ) :
    Unrelated config key db db :=
  fun _ => Frame.ofRow rfl le_rfl rfl (fun _ => Iff.rfl) Iff.rfl fun _ _ => rfl

omit [FloorRing τ] in
/-- What the session itself knows stays as well. -/
theorem Unrelated.agrees (hunrelated : Unrelated config key db after)
    (hagrees : Agrees config key db txn standing) : Agrees config key after txn standing :=
  (hunrelated (txn + 1)).agrees (Nat.succ_ne_self txn).symm hagrees

theorem unrelated_writeAttempts {key' : String}
    {change : Option (Attempts τ) → Option (Attempts τ)} (hkey : key' ≠ key)
    (hwrite : db.writeAttempts txn key' change = some after) : Unrelated config key db after := by
  intro third
  rw [(Database.writeAttempts_eq hwrite).2]
  exact Frame.ofRow (Function.update_of_ne (Ne.symm hkey) _ _) le_rfl rfl (fun _ => Iff.rfl)
    Iff.rfl fun _ _ => rfl

theorem unrelated_deleteIf {key' : String} {cond : Attempts τ → Bool} (hkey : key' ≠ key)
    (hdelete : db.deleteIf txn key' cond = some after) : Unrelated config key db after := by
  rcases Database.deleteIf_eq hdelete with rfl | ⟨-, hwrite⟩
  · exact .refl config key _
  · exact unrelated_writeAttempts hkey hwrite

theorem unrelated_writeAccount {change : Account τ → Account τ}
    (hwrite : db.writeAccount txn change = some after) : Unrelated config key db after := by
  intro third
  rw [(Database.writeAccount_eq hwrite).2]
  exact Frame.ofRow rfl le_rfl rfl (fun _ => Iff.rfl) Iff.rfl fun _ _ => rfl

omit [FloorRing τ] in
theorem frame_begin : Frame config key db (db.begin txn) txn :=
  Frame.ofRow rfl le_rfl rfl (fun _ => Iff.rfl) Iff.rfl fun _ hother =>
    Function.update_of_ne hother _ _

omit [FloorRing τ] in
theorem PhaseHolds.begin {phase : Phase τ} (hholds : PhaseHolds config key db txn phase) :
    PhaseHolds config key (db.begin txn) txn phase := by
  cases phase <;> exact hholds

omit [FloorRing τ] in
theorem Agrees.begin (hagrees : Agrees config key db txn self) :
    Agrees config key (db.begin txn) txn self.opened :=
  ⟨hagrees.phase.begin, nofun, hagrees.now⟩

/-! ## Steps of a login of the key -/

omit [FloorRing τ] in
/-- Where nobody else is past the lockout check, nobody else knows anything of the row. -/
theorem others_of_none (hnone : ∀ other ≠ txn, (other, key) ∉ db.inFlight)
    (hclock : db.clock ≤ after.clock)
    (hbegan : ∀ other ≠ txn, after.began other = db.began other)
    (hinFlight : ∀ other ≠ txn, (other, key) ∉ after.inFlight)
    (hheld : ∀ other ≠ txn, (db.loginAttempts key).heldBy other = none →
      (after.loginAttempts key).heldBy other = none) :
    ∀ other ≠ txn, ∀ standing, Agrees config key db other standing →
      Agrees config key after other standing := by
  intro other hother standing hagrees
  have hphase := hagrees.phase
  refine ⟨?_, fun hfresh => (hbegan other hother).trans (hagrees.fresh hfresh),
    fun now hnow => (hagrees.now now hnow).trans hclock⟩
  cases hstanding : standing.phase with
  | outside =>
      rw [hstanding] at hphase
      exact ⟨hinFlight other hother, hheld other hother hphase.2⟩
  | cleaning => exact hinFlight other hother
  | admitted | checked _ | counted _ | seen _ _ | written =>
      rw [hstanding] at hphase
      exact absurd hphase.1.1 (hnone other hother)

omit [Field τ] [LinearOrder τ] [FloorRing τ] in
theorem Alone.none_other (halone : Alone db key txn) :
    ∀ other ≠ txn, (other, key) ∉ db.inFlight :=
  fun other hother hmem => hother (halone.2.1 other hmem)

omit [Field τ] [LinearOrder τ] [FloorRing τ] in
theorem Alone.not_recorded (halone : Alone db key txn) : recorded db key ≠ true :=
  fun hrecorded => (recorded_iff.mp hrecorded).1 txn halone.1

omit [Field τ] [LinearOrder τ] [FloorRing τ] in
theorem heldBy_written {committed : Option (Option (Attempts τ))} {latest : Option (Attempts τ)}
    (hother : other ≠ txn) :
    (Version.written txn committed latest).heldBy other = none :=
  if_neg (Ne.symm hother)

theorem unlocked_of_open (hinvariant : GuessInvariant config key db)
    (hheld : (db.loginAttempts key).heldBy txn = none) (hrecorded : recorded db key = true)
    (hopen : remainingLockout db.clock (db.attemptsSeen txn key) = none) :
    Unlocked db.clock (db.loginAttempts key) := by
  obtain ⟨hnone, -⟩ := recorded_iff.mp hrecorded
  have hseen : ∀ row, (db.loginAttempts key).committed = some row →
      db.attemptsSeen txn key = row := by
    intro row hcommitted
    rw [Database.attemptsSeen]
    cases hversion : db.loginAttempts key with
    | stable value =>
        rw [hversion] at hcommitted
        exact congrArg Option.join hcommitted
    | written writer committed latest =>
        rw [hversion] at hcommitted hheld
        rw [Version.view, if_neg fun hwriter => ?_]
        · exact congrArg Option.join hcommitted
        · rw [hwriter] at hheld
          exact heldBy_eq_none.mp hheld committed latest rfl
  have hcommitted : ∀ row, (db.loginAttempts key).committed = some row → ∀ lockedUntil,
      row.bind Attempts.lockedUntil = some lockedUntil → lockedUntil ≤ db.clock := by
    intro row hrow lockedUntil hlocked
    rw [hseen row hrow, remainingLockout, hlocked] at hopen
    dsimp only at hopen
    by_contra hlt
    rw [if_pos (not_le.mp hlt)] at hopen
    cases hopen
  rintro row (hrow | hrow) lockedUntil hlocked
  · exact hcommitted row hrow lockedUntil hlocked
  · cases hversion : db.loginAttempts key with
    | stable value =>
        rw [hversion] at hrow
        exact hcommitted row (hversion ▸ congrArg some hrow) lockedUntil hlocked
    | written writer committed latest =>
        rcases hinvariant.writer writer committed latest hversion with hwriter | rfl
        · exact absurd hwriter (hnone writer)
        · rw [hversion] at hrow
          obtain rfl : none = row := hrow
          cases hlocked

theorem moves_pass (hinvariant : GuessInvariant config key db)
    (hphase : PhaseHolds config key db txn .outside) (hrecorded : recorded db key = true)
    (hopen : remainingLockout db.clock (db.attemptsSeen txn key) = none) :
    Moves config key db { db with inFlight := (txn, key) :: db.inFlight } txn ∧
      PhaseHolds config key { db with inFlight := (txn, key) :: db.inFlight } txn .admitted := by
  obtain ⟨hnone, habandoned⟩ := recorded_iff.mp hrecorded
  have halone : Alone { db with inFlight := (txn, key) :: db.inFlight } key txn := by
    refine ⟨List.mem_cons_self, fun other hmem => ?_, habandoned⟩
    rcases List.mem_cons.mp hmem with heq | hold
    · exact (Prod.mk.inj heq).1
    · exact absurd hold (hnone other)
  have hunlocked := unlocked_of_open hinvariant hphase.2 hrecorded hopen
  refine ⟨⟨?_, ?_⟩, halone, hphase.2, hinvariant.remembers hrecorded, hunlocked⟩
  · exact { hinvariant with
      remembers := fun hnow => absurd hnow halone.not_recorded
      writer := fun writer committed latest hversion =>
        (hinvariant.writer writer committed latest hversion).imp_left (List.mem_cons_of_mem _) }
  · exact others_of_none (fun other _ => hnone other) le_rfl (fun _ _ => rfl)
      halone.none_other fun _ _ => id

omit [Field τ] [LinearOrder τ] [FloorRing τ] in
theorem checksOf_append (time : τ) :
    checksOf { db with passwordChecks := db.passwordChecks ++ [(key, time)] } key =
      checksOf db key ++ [time] := by
  simp [checksOf]

omit [FloorRing τ] in
theorem moves_check [IsStrictOrderedRing τ] (hmax : 1 ≤ config.maxLoginAttempts)
    (hinvariant : GuessInvariant config key db)
    (hphase : PhaseHolds config key db txn .admitted) :
    Moves config key db
        { db with passwordChecks := db.passwordChecks ++ [(key, db.clock)] } txn ∧
      PhaseHolds config key { db with passwordChecks := db.passwordChecks ++ [(key, db.clock)] }
        txn (.checked db.clock) := by
  obtain ⟨halone, hheld, hremembers, hunlocked⟩ := hphase
  obtain ⟨row, hrow⟩ := hinvariant.committed
  refine ⟨⟨?_, ?_⟩, halone, hheld, le_rfl, checksOf db key, checksOf_append _,
    hinvariant.ordered, hremembers, hunlocked⟩
  · refine { hinvariant with
      ordered := ?_
      bounded := ?_
      remembers := fun hnow => absurd hnow halone.not_recorded }
    · rw [checksOf_append]
      intro check hcheck
      rcases List.mem_append.mp hcheck with hold | hnew
      · exact hinvariant.ordered check hold
      · exact (List.mem_singleton.mp hnew).le
    · rw [GuessesBounded, checksOf_append]
      exact (hremembers row (.inl hrow)).bounded (hunlocked row (.inl hrow)) hmax
        hinvariant.ordered hinvariant.bounded
  · exact others_of_none halone.none_other le_rfl (fun _ _ => rfl) halone.none_other
      fun _ _ => id

omit [FloorRing τ] in
theorem moves_write {row : Option (Attempts τ)} {committed : Option (Attempts τ)}
    (hinvariant : GuessInvariant config key db) (halone : Alone db key txn) :
    Moves config key db { db with
      loginAttempts := Function.update db.loginAttempts key
        (.written txn (some committed) row) } txn := by
  have hrow : Function.update db.loginAttempts key (.written txn (some committed) row) key =
      .written txn (some committed) row :=
    Function.update_self _ _ _
  refine ⟨?_, ?_⟩
  · refine { hinvariant with
      committed := ⟨committed, congrArg Version.committed hrow⟩
      remembers := fun hnow => absurd hnow halone.not_recorded
      writer := ?_ }
    intro writer committed' latest hversion
    injection hrow.symm.trans hversion with hwriter
    rw [← hwriter]
    exact .inl halone.1
  · refine others_of_none halone.none_other le_rfl (fun _ _ => rfl) halone.none_other ?_
    intro other hother _
    exact (congrArg (Version.heldBy other) hrow).trans (heldBy_written hother)

theorem moves_count [IsStrictOrderedRing τ] (hmax : 1 ≤ config.maxLoginAttempts)
    (hinvariant : GuessInvariant config key db) {last : τ} (hnow : last ≤ db.now txn)
    (hphase : PhaseHolds config key db txn (.checked last))
    (hwrite : db.writeAttempts txn key (countFailure (db.now txn)) = some after) :
    Moves config key db after txn ∧ PhaseHolds config key after txn (.counted last) := by
  obtain ⟨halone, hheld, hlast, before, heq, hordered, hremembers, hunlocked⟩ := hphase
  obtain ⟨hfree, rfl⟩ := Database.writeAttempts_eq hwrite
  cases hversion : db.loginAttempts key with
  | written writer committed latest =>
      rw [hversion] at hfree hheld
      obtain rfl : writer = txn := beq_iff_eq.mp hfree
      exact absurd rfl (heldBy_eq_none.mp hheld committed latest)
  | stable row =>
      have hrow : MayHold (db.loginAttempts key) row := .inr (by rw [hversion]; rfl)
      obtain ⟨counted, hcounted, hcounts⟩ := (hremembers row hrow).counted
        (hunlocked row hrow) hmax hordered hnow
      have hwritten : (Version.stable row).write txn (countFailure (db.now txn) row) =
          .written txn (some row) (some counted) := by
        rw [hcounted]
        rfl
      rw [Version.latest, hwritten]
      refine ⟨moves_write hinvariant halone, halone, ?_, row, counted,
        Function.update_self _ _ _, ?_⟩
      · change ∀ check ∈ checksOf db key, check ≤ last
        rw [heq]
        intro check hcheck
        rcases List.mem_append.mp hcheck with hold | hnew
        · exact hordered check hold
        · exact (List.mem_singleton.mp hnew).le
      · change Counted config (checksOf db key) db.clock counted
        rw [heq]
        exact hcounts

theorem moves_lock [IsStrictOrderedRing τ] (hinvariant : GuessInvariant config key db)
    {last now : τ} {attempts : ℕ} (hnow : last ≤ now)
    (hphase : PhaseHolds config key db txn (.seen last attempts))
    (hwrite : db.writeAttempts txn key (fun row => row.map fun row =>
      { row with lockedUntil := some (now + lockoutPeriod config), attempts := 0 }) =
        some after) :
    Moves config key db after txn ∧ PhaseHolds config key after txn .written := by
  obtain ⟨halone, hordered, committed, row, hversion, -, hcounted⟩ := hphase
  obtain ⟨-, rfl⟩ := Database.writeAttempts_eq hwrite
  rw [hversion]
  exact ⟨moves_write hinvariant halone, halone, committed, _, Function.update_self _ _ _,
    hcounted.locked hordered hnow⟩

/-! ## The cleanup -/

theorem frame_delete [IsStrictOrderedRing τ] (hperiod : lockoutPeriod config ≤ (3600 : τ))
    (hinvariant : GuessInvariant config key db) (houtside : (txn, key) ∉ db.inFlight)
    {cutoff : τ} (hcutoff : cutoff ≤ db.clock - 3600)
    (hdelete : db.deleteIf txn key (stale cutoff) = some after) :
    Frame config key db after txn := by
  rcases Database.deleteIf_eq hdelete with rfl | ⟨hseen, hwrite⟩
  · exact Unrelated.refl config key _ txn
  obtain ⟨hfree, rfl⟩ := Database.writeAttempts_eq hwrite
  rw [Database.attemptsSeen] at hseen
  cases hversion : db.loginAttempts key with
  | written writer committed latest =>
      rw [hversion] at hfree hseen
      obtain rfl : writer = txn := beq_iff_eq.mp hfree
      rcases hinvariant.writer writer committed latest hversion with hmem | rfl
      · exact absurd hmem houtside
      · simp [Version.view] at hseen
  | stable value =>
      rw [hversion] at hseen
      obtain ⟨row, rfl, hstale⟩ := (Option.any_eq_true _ _).mp hseen
      have hrow : Function.update db.loginAttempts key
          (.written txn (some (some row)) none) key = .written txn (some (some row)) none :=
        Function.update_self _ _ _
      have hmay : ∀ {other}, MayHold (Function.update db.loginAttempts key
          (.written txn (some (some row)) none) key) other → other = some row ∨ other = none := by
        intro other hother
        rw [hrow] at hother
        rcases hother with hcommitted | hlatest
        · exact .inl (Option.some.inj hcommitted).symm
        · exact .inr hlatest.symm
      have hbefore : MayHold (Version.stable (some row)) (some row) := .inr rfl
      exact {
        clock := le_rfl
        checks := rfl
        inFlight := fun _ => Iff.rfl
        abandoned := Iff.rfl
        began := fun _ _ => rfl
        committed := fun _ => ⟨some row, congrArg Version.committed hrow⟩
        remembers := by
          intro checks hremembers other hother
          rw [hversion] at hremembers
          rcases hmay hother with rfl | rfl
          · exact hremembers _ hbefore
          · exact (hremembers _ hbefore).deleted hperiod hcutoff hstale
        unlocked := by
          intro hunlocked other hother lockedUntil hlocked
          rw [hversion] at hunlocked
          rcases hmay hother with rfl | rfl
          · exact hunlocked _ hbefore lockedUntil hlocked
          · cases hlocked
        writer := by
          intro writer committed latest hafter
          injection hrow.symm.trans hafter with hwriter _ hlatest
          exact .inr ⟨hwriter.symm, hlatest.symm⟩
        held := by
          intro other _ committed latest hheld
          rw [hversion] at hheld
          cases hheld }

/-! ## The end of a transaction -/

section Ending

omit [Field τ] [LinearOrder τ] [FloorRing τ]

variable {version : Version (Option (Attempts τ))} {writer : ℕ}
  {committed : Option (Option (Attempts τ))} {latest : Option (Attempts τ)}

theorem settle_eq_written (hsettle : version.settle txn = .written writer committed latest) :
    version = .written writer committed latest := by
  cases version with
  | stable value => cases hsettle
  | written writer' committed' latest' =>
      rw [Version.settle] at hsettle
      split at hsettle
      · cases hsettle
      · exact hsettle

theorem undo_eq_written (hundo : version.undo txn = .written writer committed latest) :
    version = .written writer committed latest := by
  cases version with
  | stable value => cases hundo
  | written writer' committed' latest' =>
      cases committed' with
      | none => exact hundo
      | some committed' =>
          rw [Version.undo] at hundo
          split at hundo
          · cases hundo
          · exact hundo

theorem settle_written_other (hother : other ≠ txn) :
    (Version.written other committed latest).settle txn = .written other committed latest :=
  if_neg hother

theorem undo_written_other (hother : other ≠ txn) :
    (Version.written other committed latest).undo txn = .written other committed latest := by
  cases committed with
  | none => rfl
  | some committed => exact if_neg hother

theorem exists_committed_settle (hcommitted : ∃ row, version.committed = some row) :
    ∃ row, (version.settle txn).committed = some row := by
  cases version with
  | stable value => exact hcommitted
  | written writer committed latest =>
      rw [Version.settle]
      split
      · exact ⟨latest, rfl⟩
      · exact hcommitted

end Ending

omit [FloorRing τ] in
theorem frame_commit
    (hkeeps : (txn, key) ∈ db.inFlight → (db.loginAttempts key).heldBy txn = none) :
    Frame config key db (db.commit txn) txn where
  clock := le_rfl
  checks := rfl
  inFlight := by
    intro other
    refine ⟨fun hmem => (List.mem_filter.mp hmem).1, fun hmem => List.mem_filter.mpr ⟨hmem, ?_⟩⟩
    by_cases hother : other = txn
    · rw [hother] at hmem
      simp [hkeeps hmem]
    · simp [hother]
  abandoned := Iff.rfl
  began := fun _ hother => Function.update_of_ne hother _ _
  committed := exists_committed_settle
  remembers := fun _ hremembers => hremembers.mono fun _ => mayHold_settle
  unlocked := fun hunlocked => hunlocked.mono fun _ => mayHold_settle
  writer := fun _ _ _ hversion => .inl (settle_eq_written hversion)
  held := by
    intro other hother committed latest hversion
    change (db.loginAttempts key).settle txn = _
    rw [hversion]
    exact settle_written_other hother

omit [FloorRing τ] in
theorem frame_rollback (houtside : (txn, key) ∉ db.inFlight) :
    Frame config key db (db.rollback txn) txn where
  clock := le_rfl
  checks := rfl
  inFlight := by
    intro other
    refine ⟨fun hmem => (List.mem_filter.mp hmem).1, fun hmem => List.mem_filter.mpr ⟨hmem, ?_⟩⟩
    rw [bne_iff_ne]
    rintro rfl
    exact houtside hmem
  abandoned := by
    refine ⟨fun hmem => ?_, fun hmem => List.mem_append_right _ hmem⟩
    rcases List.mem_append.mp hmem with hnew | hold
    · obtain ⟨entry, hentry, rfl⟩ := List.mem_map.mp hnew
      obtain ⟨hmem, htxn⟩ := List.mem_filter.mp hentry
      rw [← beq_iff_eq.mp htxn] at houtside
      exact absurd hmem houtside
    · exact hold
  began := fun _ hother => Function.update_of_ne hother _ _
  committed := by
    intro hcommitted
    change ∃ row, ((db.loginAttempts key).undo txn).committed = some row
    rw [Version.committed_undo]
    exact hcommitted
  remembers := fun _ hremembers => hremembers.mono fun _ => mayHold_undo
  unlocked := fun hunlocked => hunlocked.mono fun _ => mayHold_undo
  writer := fun _ _ _ hversion => .inl (undo_eq_written hversion)
  held := by
    intro other hother committed latest hversion
    change (db.loginAttempts key).undo txn = _
    rw [hversion]
    exact undo_written_other hother

omit [FloorRing τ] in
theorem PhaseHolds.commit {phase : Phase τ} (hinvariant : GuessInvariant config key db)
    (hphase : PhaseHolds config key db txn phase) {next : Phase τ}
    (hnext : phase.committed config = some next) :
    Moves config key db (db.commit txn) txn ∧ PhaseHolds config key (db.commit txn) txn next := by
  have hheld : ((db.commit txn).loginAttempts key).heldBy txn = none := Version.heldBy_settle
  have hgone : ∀ row, (txn, key) ∈ db.inFlight → Wrote db key txn (fun after => after = row) →
      (txn, key) ∉ (db.commit txn).inFlight := by
    rintro row - ⟨committed, _, hversion, rfl⟩ hmem
    have hkept := (List.mem_filter.mp hmem).2
    simp [hversion, Version.heldBy] at hkept
  have hwrote : Alone db key txn → (Wrote db key txn fun row =>
      RowRemembers config (checksOf db key) db.clock (some row)) →
      Moves config key db (db.commit txn) txn ∧
        PhaseHolds config key (db.commit txn) txn .outside := by
    rintro halone ⟨committed, row, hversion, hremembers⟩
    have hout := hgone row halone.1 ⟨committed, row, hversion, rfl⟩
    have hstable : (db.commit txn).loginAttempts key = .stable (some row) := by
      change (db.loginAttempts key).settle txn = _
      rw [hversion]
      exact if_pos rfl
    refine ⟨⟨⟨⟨some row, by rw [hstable]; rfl⟩, hinvariant.ordered, hinvariant.bounded, ?_, ?_⟩,
      ?_⟩, hout, hheld⟩
    · intro _ other hother
      rw [hstable] at hother
      have hsame : some row = other := hother.elim Option.some.inj id
      rw [← hsame]
      exact hremembers
    · intro writer committed latest hafter
      rw [hstable] at hafter
      cases hafter
    · refine others_of_none halone.none_other le_rfl
        (fun other hother => Function.update_of_ne hother _ _)
        (fun other hother hmem => halone.none_other other hother (List.mem_filter.mp hmem).1) ?_
      intro other _ _
      rw [hstable]
      rfl
  cases phase with
  | outside =>
      obtain rfl := Option.some.inj hnext
      have hframe : Frame config key db (db.commit txn) txn :=
        frame_commit fun hmem => absurd hmem hphase.1
      exact ⟨hframe.moves hinvariant, fun hmem => hphase.1 ((hframe.inFlight txn).mp hmem), hheld⟩
  | cleaning =>
      obtain rfl := Option.some.inj hnext
      have hframe : Frame config key db (db.commit txn) txn :=
        frame_commit fun hmem => absurd hmem hphase
      exact ⟨hframe.moves hinvariant, fun hmem => hphase ((hframe.inFlight txn).mp hmem), hheld⟩
  | admitted => cases hnext
  | checked last =>
      obtain rfl := Option.some.inj hnext
      obtain ⟨halone, hnone, hlast, before, heq, hordered, hremembers, hunlocked⟩ := hphase
      have hframe : Frame config key db (db.commit txn) txn := frame_commit fun _ => hnone
      exact ⟨hframe.moves hinvariant, halone.frame hframe, hheld, hlast, before, heq, hordered,
        hframe.remembers _ hremembers, hframe.unlocked hunlocked⟩
  | counted last => cases hnext
  | seen last attempts =>
      obtain ⟨halone, -, committed, row, hversion, rfl, hcounted⟩ := hphase
      obtain ⟨hbelow, heq⟩ := Option.ite_none_right_eq_some.mp hnext
      obtain rfl := Option.some.inj heq
      exact hwrote halone ⟨committed, row, hversion, hcounted.remembers hbelow⟩
  | written =>
      obtain rfl := Option.some.inj hnext
      exact hwrote hphase.1 hphase.2

omit [FloorRing τ] in
/-- A session that ends leaves the others where they are; one that was past the lockout
check leaves the key closed. -/
theorem moves_rollback (hinvariant : GuessInvariant config key db)
    (hagrees : Agrees config key db txn self) :
    Moves config key db (db.rollback txn) txn := by
  by_cases hmem : (txn, key) ∈ db.inFlight
  · have hphase := hagrees.phase
    have halone : Alone db key txn := by
      cases hself : self.phase with
      | outside =>
          rw [hself] at hphase
          exact absurd hmem hphase.1
      | cleaning =>
          rw [hself] at hphase
          exact absurd hmem hphase
      | admitted | checked _ | counted _ | seen _ _ | written =>
          rw [hself] at hphase
          exact hphase.1
    have habandoned : key ∈ (db.rollback txn).abandoned :=
      List.mem_append_left _ (List.mem_map.mpr
        ⟨(txn, key), List.mem_filter.mpr ⟨hmem, beq_self_eq_true txn⟩, rfl⟩)
    refine ⟨⟨?_, hinvariant.ordered, hinvariant.bounded, ?_, ?_⟩, ?_⟩
    · change ∃ row, ((db.loginAttempts key).undo txn).committed = some row
      rw [Version.committed_undo]
      exact hinvariant.committed
    · intro hrecorded
      exact absurd habandoned (recorded_iff.mp hrecorded).2
    · intro writer committed latest hversion
      have hbefore := undo_eq_written hversion
      refine (hinvariant.writer writer committed latest hbefore).imp_left fun hin => ?_
      obtain rfl := halone.2.1 writer hin
      obtain ⟨row, hrow⟩ := hinvariant.committed
      rw [hbefore] at hrow
      obtain rfl : committed = some row := hrow
      change (db.loginAttempts key).undo writer = _ at hversion
      rw [hbefore, Version.undo, if_pos rfl] at hversion
      cases hversion
    · refine others_of_none halone.none_other le_rfl
        (fun other hother => Function.update_of_ne hother _ _)
        (fun other hother hmem => halone.none_other other hother (List.mem_filter.mp hmem).1) ?_
      intro other hother hheld
      rw [heldBy_eq_none] at hheld ⊢
      exact fun committed latest hversion =>
        hheld committed latest (undo_eq_written hversion)
  · exact (frame_rollback hmem).moves hinvariant

omit [FloorRing τ] in
theorem idle_rollback (hinvariant : GuessInvariant config key db) :
    Agrees config key (db.rollback txn) txn .idle := by
  obtain ⟨row, hrow⟩ := hinvariant.committed
  refine ⟨⟨fun hmem => ?_, ?_⟩, nofun, nofun⟩
  · have hkept := (List.mem_filter.mp hmem).2
    simp at hkept
  · change ((db.loginAttempts key).undo txn).heldBy txn = none
    apply Version.heldBy_undo
    cases hversion : db.loginAttempts key with
    | stable value => rfl
    | written writer committed latest =>
        rw [hversion] at hrow
        obtain rfl : committed = some row := hrow
        rfl

end SentryWms.Auth
