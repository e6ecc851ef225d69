import SentryWms.Webhook.SecretRotation

/-!
# Signing while the secret is rotated

A signer that has its row holds it until it commits, and no rotation gets past it. A signer
that waits for its row holds nothing: the row it waits for is renamed when the rotation
commits, and the new primary is not in its snapshot.
-/

namespace SentryWms.Webhook.Secrets

open Relational Transition

variable {hmacSha256 : List UInt8 → List UInt8 → String}

/-! ## The property -/

/-- No signer is without a primary, and what was signed verified at its commit, under the
generation on its row. -/
structure NeverBroken (state : SecretState) : Prop where
  loaded : ∀ entry ∈ state.signers.entries, entry.2.phase ≠ .raised
  verified : ∀ delivery ∈ state.delivered,
    delivery.verified = some delivery.secretGeneration

def SignPhase.waits : SignPhase → Option ℕ
  | .waiting rowId => some rowId
  | _ => none

def CommitsUnawaited (state : SecretState) : SecretAct → Prop
  | .commitRotation =>
      ∀ entry ∈ state.signers.entries, ∀ rowId ∈ entry.2.phase.waits,
        state.written rowId = false
  | _ => True

instance (state : SecretState) (act : SecretAct) : Decidable (CommitsUnawaited state act) :=
  match act with
  | .commitRotation => inferInstanceAs (Decidable (∀ entry ∈ state.signers.entries,
      ∀ rowId ∈ entry.2.phase.waits, state.written rowId = false))
  | .rotate | .deletePrevious | .demotePrimary | .insertPrimary _ | .rollbackRotation
  | .claim _ | .load _ _ | .recheck _ _ | .stamp _ | .commitSigned _ | .crash _ | .wait _ =>
      inferInstanceAs (Decidable True)

/-! ## The invariant -/

structure OnePrimary (secrets : Table SecretRow) : Prop where
  generations : ∀ entry ∈ secrets.entries, entry.2.generation = 1 ∨ entry.2.generation = 2
  present : ∃ entry ∈ secrets.entries, entry.2.primary = true
  unique : ∀ entry ∈ secrets.entries, ∀ other ∈ secrets.entries,
    entry.2.primary = true → other.2.primary = true → entry = other
  lasting : ∀ entry ∈ secrets.entries, entry.2.primary = true → entry.2.expiresAt = none

/-- What a rotation sees and has written, phase by phase. -/
structure Rotation.Sound (secrets : Table SecretRow) (rotation : Rotation) : Prop where
  reads : rotation.phase = .locked ∨ rotation.phase = .deleted →
    OnePrimary rotation.secrets ∧
      ∀ entry ∈ secrets.entries, entry.2.primary = true → entry ∈ rotation.secrets.entries
  renames : rotation.phase = .demoted →
    ∀ entry ∈ rotation.secrets.entries, entry.2.generation = 2
  replaces : rotation.phase = .inserted → OnePrimary rotation.secrets
  holds : rotation.phase = .demoted ∨ rotation.phase = .inserted →
    ∀ entry ∈ secrets.entries, entry.2.primary = true → entry.1 ∈ rotation.writes

section Signatures

variable (hmacSha256)

def Signs (secrets : Table SecretRow) (rowId : ℕ) (request : SignedRequest) : Prop :=
  ∃ row, (rowId, row) ∈ secrets.entries ∧ row.primary = true ∧
    request.secretGeneration = 1 ∧
    request.signature =
      computeSignature hmacSha256 request.timestamp request.body row.material

def SignPhase.Sound (secrets : Table SecretRow) : SignPhase → Prop
  | .claimed => True
  | .waiting rowId => ∃ row, (rowId, row) ∈ secrets.entries ∧ row.primary = true
  | .signed rowId request => Signs hmacSha256 secrets rowId request
  | .stamped rowId request secretGeneration =>
      Signs hmacSha256 secrets rowId request ∧ secretGeneration = 1
  | .raised => False

/-- What holds in every run in which no rotation commits while a signer waits for it. -/
structure SecretState.Sound (state : SecretState) : Prop where
  secrets : OnePrimary state.secrets
  rotation : ∀ rotation ∈ state.rotation, rotation.Sound state.secrets
  free : ∀ rowId, state.shared rowId = true → state.written rowId = false
  signers : ∀ entry ∈ state.signers.entries, entry.2.phase.Sound hmacSha256 state.secrets
  verified : ∀ delivery ∈ state.delivered,
    delivery.verified = some delivery.secretGeneration

end Signatures

variable {state after : SecretState} {rotation : Rotation} {secrets : Table SecretRow}
  {rowId signerId : ℕ} {row : SecretRow} {phase : SignPhase}

theorem SecretState.Sound.neverBroken (hsound : state.Sound hmacSha256) :
    NeverBroken state where
  loaded := by
    intro entry hentry hraised
    have hsigner := hsound.signers entry hentry
    rw [hraised] at hsigner
    exact hsigner
  verified := hsound.verified

/-! ## Verifying -/

theorem primary_iff : row.primary = true ↔ row.generation = 1 := by
  rw [SecretRow.primary, beq_iff_eq]

theorem verifySignature_primary (hprimary : OnePrimary secrets)
    (hrow : (rowId, row) ∈ secrets.entries) (hfirst : row.primary = true) (now timestamp : ℕ)
    (body : List UInt8) :
    verifySignature hmacSha256 timestamp body
      (computeSignature hmacSha256 timestamp body row.material)
      (loadAllActiveSecrets secrets now) = some 1 := by
  have hlive : row.live now = true := by
    rw [SecretRow.live, hprimary.lasting _ hrow hfirst]
    rfl
  have hmem : row.material ∈ loadAllActiveSecrets secrets now := by
    refine List.mem_map.mpr ⟨(rowId, row), ?_, rfl⟩
    exact mem_orderBy.mpr ((Table.mem_select _).mpr ⟨hrow, hlive⟩)
  have hsorted : (loadAllActiveSecrets secrets now).Pairwise
      fun left right => left.generation ≤ right.generation := by
    rw [loadAllActiveSecrets, List.pairwise_map]
    exact List.pairwise_insertionSort _ _
  have hgenerations : ∀ secret ∈ loadAllActiveSecrets secrets now, 1 ≤ secret.generation := by
    intro secret hsecret
    obtain ⟨entry, hentry, rfl⟩ := List.mem_map.mp hsecret
    have hselected := (Table.mem_select _).mp (mem_orderBy.mp hentry)
    rcases hprimary.generations entry hselected.1 with hone | htwo
    · exact Nat.le_of_eq hone.symm
    · exact Nat.le_of_lt (Nat.lt_of_lt_of_eq Nat.one_lt_two htwo.symm)
  cases hfind : (loadAllActiveSecrets secrets now).find? fun secret =>
      computeSignature hmacSha256 timestamp body secret ==
        computeSignature hmacSha256 timestamp body row.material with
  | none =>
      have hother := List.find?_eq_none.mp hfind row.material hmem
      rw [beq_self_eq_true] at hother
      exact absurd rfl hother
  | some secret =>
      rw [verifySignature, hfind, Option.map_some, Option.some.injEq]
      obtain ⟨-, before, behind, hsplit, hbefore⟩ := List.find?_eq_some_iff_append.mp hfind
      have hle : secret.generation ≤ 1 := by
        rw [hsplit] at hmem hsorted
        rcases List.mem_append.mp hmem with hearlier | hlater
        · have hmatch := hbefore _ hearlier
          rw [beq_self_eq_true] at hmatch
          cases hmatch
        · rcases List.mem_cons.mp hlater with hsame | hbehind
          · rw [← hsame]
            exact Nat.le_of_eq (primary_iff.mp hfirst)
          · have hcons := (List.pairwise_append.mp hsorted).2.1
            have hgeneration := (List.pairwise_cons.mp hcons).1 _ hbehind
            exact hgeneration.trans (Nat.le_of_eq (primary_iff.mp hfirst))
      exact Nat.le_antisymm hle (hgenerations secret (List.mem_of_find?_eq_some hfind))

/-! ## Locks -/

theorem shared_iff :
    state.shared rowId = true ↔
      ∃ entry ∈ state.signers.entries, entry.2.phase.shares = some rowId := by
  simp [SecretState.shared]

/-- A row that is locked after a delivery went on was locked before, or is the one it took. -/
theorem shared_setSigner (hshared : (state.setSigner signerId phase).shared rowId = true) :
    state.shared rowId = true ∨ phase.shares = some rowId := by
  obtain ⟨entry, hentry, hshares⟩ := shared_iff.mp hshared
  obtain ⟨before, hbefore, hafter⟩ := (Table.mem_modify _).mp hentry
  split at hafter
  · rw [← hafter] at hshares
    exact .inr hshares
  · rw [← hafter] at hshares
    exact .inl (shared_iff.mpr ⟨(entry.1, before), hbefore, hshares⟩)

theorem shared_delete {signers : Table Signer}
    (hsigners : ∀ entry ∈ signers.entries, entry ∈ state.signers.entries)
    (hshared : SecretState.shared { state with signers } rowId = true) :
    state.shared rowId = true := by
  obtain ⟨entry, hentry, hshares⟩ := shared_iff.mp hshared
  exact shared_iff.mpr ⟨entry, hsigners entry hentry, hshares⟩

/-! ## Deliveries -/

theorem SecretState.Sound.setSigner (hsound : state.Sound hmacSha256)
    (hphase : phase.Sound hmacSha256 state.secrets)
    (hfree : ∀ rowId, phase.shares = some rowId → state.written rowId = false) :
    (state.setSigner signerId phase).Sound hmacSha256 where
  secrets := hsound.secrets
  rotation := hsound.rotation
  free := by
    intro rowId hshared
    rcases shared_setSigner hshared with hbefore | htaken
    · exact hsound.free rowId hbefore
    · exact hfree rowId htaken
  signers := by
    intro entry hentry
    obtain ⟨before, hbefore, hafter⟩ := (Table.mem_modify _).mp hentry
    split at hafter
    · rw [← hafter]
      exact hphase
    · rw [← hafter]
      exact hsound.signers _ hbefore
  verified := hsound.verified

/-- Deliveries that end leave the others as they are. -/
theorem SecretState.Sound.remove (hsound : state.Sound hmacSha256) (signerId : ℕ) :
    SecretState.Sound hmacSha256
      { state with signers := state.signers.delete signerId } := by
  have hsigners : ∀ entry ∈ (state.signers.delete signerId).entries,
      entry ∈ state.signers.entries :=
    fun entry hentry => ((Table.mem_delete _).mp hentry).1
  exact ⟨hsound.secrets, hsound.rotation,
    fun rowId hshared => hsound.free rowId (shared_delete hsigners hshared),
    fun entry hentry => hsound.signers entry (hsigners entry hentry), hsound.verified⟩

theorem SecretState.Sound.claim (hsound : state.Sound hmacSha256) (body : List UInt8) :
    SecretState.Sound hmacSha256
      { state with signers := state.signers.insert ⟨body, .claimed⟩ } where
  secrets := hsound.secrets
  rotation := hsound.rotation
  free := by
    intro rowId hshared
    obtain ⟨entry, hentry, hshares⟩ := shared_iff.mp hshared
    rcases (Table.mem_insert _).mp hentry with hold | rfl
    · exact hsound.free rowId (shared_iff.mpr ⟨entry, hold, hshares⟩)
    · cases hshares
  signers := by
    intro entry hentry
    rcases (Table.mem_insert _).mp hentry with hold | rfl
    · exact hsound.signers entry hold
    · trivial
  verified := hsound.verified

theorem signs_signRequest (hrow : (rowId, row) ∈ secrets.entries)
    (hprimary : row.primary = true) (body : List UInt8) (timestamp : ℕ) :
    Signs hmacSha256 secrets rowId (signRequest hmacSha256 body row.material timestamp) :=
  ⟨row, hrow, hprimary, primary_iff.mp hprimary, rfl⟩

theorem SecretState.Sound.load (hsound : state.Sound hmacSha256) (body : List UInt8)
    (timestamp : ℕ) :
    (state.setSigner signerId (state.load hmacSha256 body timestamp)).Sound hmacSha256 := by
  obtain ⟨primary, hprimary, hfirst⟩ := hsound.secrets.present
  cases hhead : (state.secrets.select SecretRow.primary).head? with
  | none =>
      have hempty := List.head?_eq_none_iff.mp hhead
      have hmem := (Table.mem_select state.secrets).mpr ⟨hprimary, hfirst⟩
      rw [hempty] at hmem
      cases hmem
  | some found =>
      obtain ⟨hrow, hfound⟩ := (Table.mem_select _).mp (List.mem_of_head? hhead)
      by_cases hwritten : state.written found.1 = true
      · have hload : state.load hmacSha256 body timestamp = .waiting found.1 := by
          rw [SecretState.load, hhead]
          exact if_pos hwritten
        rw [hload]
        exact hsound.setSigner ⟨found.2, hrow, hfound⟩ nofun
      · have hload : state.load hmacSha256 body timestamp =
            .signed found.1 (signRequest hmacSha256 body found.2.material timestamp) := by
          rw [SecretState.load, hhead]
          exact if_neg hwritten
        rw [hload]
        refine hsound.setSigner (signs_signRequest hrow hfound body timestamp) ?_
        intro rowId hshares
        rw [← Option.some.inj hshares]
        exact Bool.eq_false_iff.mpr hwritten

theorem SecretState.Sound.recheck (hsound : state.Sound hmacSha256)
    (hwaiting : SignPhase.Sound hmacSha256 state.secrets (.waiting rowId))
    (hwritten : ¬ state.written rowId = true) (body : List UInt8) (timestamp : ℕ) :
    (state.setSigner signerId (state.recheck hmacSha256 rowId body timestamp)).Sound
      hmacSha256 := by
  obtain ⟨row, hrow, hprimary⟩ := hwaiting
  rw [SecretState.recheck, state.secrets.get?_eq_some.mpr hrow]
  dsimp only
  rw [if_pos hprimary]
  refine hsound.setSigner (signs_signRequest hrow hprimary body timestamp) ?_
  intro rowId' hshares
  rw [← Option.some.inj hshares]
  exact Bool.eq_false_iff.mpr hwritten

theorem SecretState.Sound.deliver (hsound : state.Sound hmacSha256) {request : SignedRequest}
    {secretGeneration : ℕ}
    (hstamped : SignPhase.Sound hmacSha256 state.secrets
      (.stamped rowId request secretGeneration)) (signerId : ℕ) :
    (state.deliver hmacSha256 signerId request secretGeneration).Sound hmacSha256 := by
  have hremoved := hsound.remove signerId
  refine ⟨hremoved.secrets, hremoved.rotation, hremoved.free, hremoved.signers, ?_⟩
  intro delivery hdelivery
  rcases List.mem_append.mp hdelivery with hold | hnew
  · exact hsound.verified delivery hold
  · obtain ⟨⟨row, hrow, hprimary, -, hsignature⟩, hgeneration⟩ := hstamped
    rw [List.mem_singleton.mp hnew]
    dsimp only
    rw [hsignature, verifySignature_primary hsound.secrets hrow hprimary, hgeneration]

/-! ## Rotations -/

theorem SecretState.Sound.setRotation (hsound : state.Sound hmacSha256)
    (hrotation : rotation.Sound state.secrets)
    (hfree : ∀ rowId, state.shared rowId = true → rowId ∉ rotation.writes) :
    (state.setRotation rotation).Sound hmacSha256 where
  secrets := hsound.secrets
  rotation := by
    intro rotation' hrotation'
    rw [← Option.some.inj hrotation']
    exact hrotation
  free := by
    intro rowId hshared
    have hnot := hfree rowId hshared
    rw [SecretState.setRotation, SecretState.written, Option.any_some,
      List.contains_eq_mem, decide_eq_false hnot]
  signers := hsound.signers
  verified := hsound.verified

theorem not_mem_writes (hsound : state.Sound hmacSha256)
    (hrotation : state.rotation = some rotation) (hshared : state.shared rowId = true) :
    rowId ∉ rotation.writes := by
  have hfree := hsound.free rowId hshared
  rw [SecretState.written, hrotation, Option.any_some, List.contains_eq_mem] at hfree
  exact of_decide_eq_false hfree

theorem not_mem_append {writes rows : List ℕ}
    (hrows : rows.all (fun rowId => !state.shared rowId) = true)
    (hshared : state.shared rowId = true) (hwrites : rowId ∉ writes) :
    rowId ∉ writes ++ rows := by
  intro hmem
  rcases List.mem_append.mp hmem with hold | hnew
  · exact hwrites hold
  · have hother := List.all_eq_true.mp hrows rowId hnew
    rw [hshared] at hother
    cases hother

theorem Rotation.Sound.deletePrevious (hsound : rotation.Sound secrets)
    (hphase : rotation.phase = .locked) : rotation.deletePrevious.Sound secrets := by
  obtain ⟨hone, hkept⟩ := hsound.reads (.inl hphase)
  have hstays : ∀ entry ∈ rotation.secrets.entries, entry.2.primary = true →
      entry ∈ rotation.deletePrevious.secrets.entries := by
    intro entry hentry hprimary
    refine (Table.mem_deleteWhere _).mpr ⟨hentry, ?_⟩
    rw [primary_iff.mp hprimary]
    rfl
  have hbefore : ∀ entry ∈ rotation.deletePrevious.secrets.entries,
      entry ∈ rotation.secrets.entries :=
    fun entry hentry => ((Table.mem_deleteWhere _).mp hentry).1
  refine ⟨fun _ => ⟨⟨?_, ?_, ?_, ?_⟩, ?_⟩, nofun, nofun, ?_⟩
  · exact fun entry hentry => hone.generations entry (hbefore entry hentry)
  · obtain ⟨entry, hentry, hprimary⟩ := hone.present
    exact ⟨entry, hstays entry hentry hprimary, hprimary⟩
  · intro entry hentry other hother
    exact hone.unique entry (hbefore entry hentry) other (hbefore other hother)
  · exact fun entry hentry => hone.lasting entry (hbefore entry hentry)
  · exact fun entry hentry hprimary => hstays entry (hkept entry hentry hprimary) hprimary
  · rintro (hphase' | hphase')
    · cases hphase'
    · cases hphase'

theorem Rotation.Sound.demotePrimary (hsound : rotation.Sound secrets)
    (hphase : rotation.phase = .deleted) : rotation.demotePrimary.Sound secrets := by
  obtain ⟨hone, hkept⟩ := hsound.reads (.inr hphase)
  refine ⟨?_, fun _ => ?_, nofun, fun _ => ?_⟩
  · rintro (hphase' | hphase')
    · cases hphase'
    · cases hphase'
  · intro entry hentry
    obtain ⟨before, hbefore, hafter⟩ := (Table.mem_mapRows _).mp hentry
    rw [← hafter]
    split
    · rfl
    · next hprimary =>
        rcases hone.generations _ hbefore with hone' | htwo
        · exact absurd (primary_iff.mpr hone') hprimary
        · exact htwo
  · intro entry hentry hprimary
    refine List.mem_append_right _ (List.mem_map_of_mem ?_)
    exact (Table.mem_select _).mpr ⟨hkept entry hentry hprimary, hprimary⟩

theorem Rotation.Sound.insertPrimary (hsound : rotation.Sound secrets)
    (hphase : rotation.phase = .demoted) (plaintext : List UInt8) :
    (rotation.insertPrimary plaintext).Sound secrets := by
  have hrenamed := hsound.renames hphase
  have hnew : ∀ entry ∈ (rotation.insertPrimary plaintext).secrets.entries,
      entry.2.primary = true → entry = (rotation.secrets.next, ⟨1, plaintext, none⟩) := by
    intro entry hentry hprimary
    rcases (Table.mem_insert _).mp hentry with hold | hnew
    · rw [primary_iff, hrenamed entry hold] at hprimary
      cases hprimary
    · exact hnew
  refine ⟨?_, nofun, fun _ => ⟨?_, ?_, ?_, ?_⟩, fun _ => hsound.holds (.inl hphase)⟩
  · rintro (hphase' | hphase')
    · cases hphase'
    · cases hphase'
  · intro entry hentry
    rcases (Table.mem_insert _).mp hentry with hold | hnew
    · exact .inr (hrenamed entry hold)
    · rw [hnew]
      exact .inl rfl
  · exact ⟨_, (Table.mem_insert _).mpr (.inr rfl), rfl⟩
  · intro entry hentry other hother hprimary hprimary'
    rw [hnew entry hentry hprimary, hnew other hother hprimary']
  · intro entry hentry hprimary
    rw [hnew entry hentry hprimary]

theorem SecretState.Sound.commitRotation (hsound : state.Sound hmacSha256)
    (hrotation : state.rotation = some rotation) (hphase : rotation.phase = .inserted)
    (hunawaited : CommitsUnawaited state .commitRotation) :
    SecretState.Sound hmacSha256
      { state with secrets := rotation.secrets, rotation := none } := by
  have hrotates := hsound.rotation rotation hrotation
  have hwritten : ∀ rowId row, (rowId, row) ∈ state.secrets.entries → row.primary = true →
      state.written rowId = true := by
    intro rowId row hrow hprimary
    have hmem := hrotates.holds (.inr hphase) _ hrow hprimary
    rw [SecretState.written, hrotation, Option.any_some, List.contains_eq_mem]
    exact decide_eq_true hmem
  refine ⟨hrotates.replaces hphase, nofun, fun _ _ => rfl, ?_, hsound.verified⟩
  intro entry hentry
  have hsigner := hsound.signers entry hentry
  have hshares : ∀ rowId, entry.2.phase.shares = some rowId → state.written rowId = false :=
    fun rowId hshares => hsound.free rowId (shared_iff.mpr ⟨entry, hentry, hshares⟩)
  have hwaits := hunawaited entry hentry
  cases hentryPhase : entry.2.phase with
  | claimed => trivial
  | raised =>
      rw [hentryPhase] at hsigner
      exact hsigner
  | waiting rowId =>
      rw [hentryPhase] at hsigner hwaits
      obtain ⟨row, hrow, hprimary⟩ := hsigner
      have hfree := hwaits rowId rfl
      rw [hwritten rowId row hrow hprimary] at hfree
      cases hfree
  | signed rowId request =>
      rw [hentryPhase] at hsigner hshares
      obtain ⟨row, hrow, hprimary, -⟩ := hsigner
      have hfree := hshares rowId rfl
      rw [hwritten rowId row hrow hprimary] at hfree
      cases hfree
  | stamped rowId request secretGeneration =>
      rw [hentryPhase] at hsigner hshares
      obtain ⟨⟨row, hrow, hprimary, -⟩, -⟩ := hsigner
      have hfree := hshares rowId rfl
      rw [hwritten rowId row hrow hprimary] at hfree
      cases hfree

/-! ## Runs -/

theorem secretStep_sound {act : SecretAct} (hsound : state.Sound hmacSha256)
    (hunawaited : CommitsUnawaited state act)
    (hstep : secretStep hmacSha256 state act = some after) : after.Sound hmacSha256 := by
  cases act with
  | rotate =>
      rw [secretStep] at hstep
      split at hstep
      · cases hstep
        exact hsound
      · split at hstep
        · cases hstep
        · cases hstep
          refine hsound.setRotation ?_ fun _ _ => List.not_mem_nil
          refine ⟨fun _ => ⟨hsound.secrets, fun entry hentry _ => hentry⟩, nofun, nofun, ?_⟩
          rintro (hphase | hphase)
          · cases hphase
          · cases hphase
  | deletePrevious =>
      rw [secretStep] at hstep
      split at hstep
      · cases hstep
      · next rotation hrotation =>
          split at hstep
          · next hcond =>
              cases hstep
              refine hsound.setRotation
                ((hsound.rotation rotation hrotation).deletePrevious hcond.1) ?_
              intro rowId hshared
              exact not_mem_append hcond.2 hshared (not_mem_writes hsound hrotation hshared)
          · cases hstep
  | demotePrimary =>
      rw [secretStep] at hstep
      split at hstep
      · cases hstep
      · next rotation hrotation =>
          split at hstep
          · next hcond =>
              cases hstep
              refine hsound.setRotation
                ((hsound.rotation rotation hrotation).demotePrimary hcond.1) ?_
              intro rowId hshared
              exact not_mem_append hcond.2 hshared (not_mem_writes hsound hrotation hshared)
          · cases hstep
  | insertPrimary plaintext =>
      rw [secretStep] at hstep
      split at hstep
      · cases hstep
      · next rotation hrotation =>
          split at hstep
          · next hphase =>
              cases hstep
              refine hsound.setRotation
                ((hsound.rotation rotation hrotation).insertPrimary hphase plaintext) ?_
              intro rowId hshared
              have hwrites : rowId ∉ rotation.writes := not_mem_writes hsound hrotation hshared
              exact hwrites
          · cases hstep
  | commitRotation =>
      rw [secretStep] at hstep
      split at hstep
      · cases hstep
      · next rotation hrotation =>
          split at hstep
          · next hphase =>
              cases hstep
              exact hsound.commitRotation hrotation hphase hunawaited
          · cases hstep
  | rollbackRotation =>
      cases hstep
      exact ⟨hsound.secrets, nofun, fun _ _ => rfl, hsound.signers, hsound.verified⟩
  | claim body =>
      cases hstep
      exact hsound.claim body
  | load signerId timestamp =>
      rw [secretStep] at hstep
      split at hstep
      · cases hstep
      · split at hstep
        · cases hstep
          exact hsound.load _ timestamp
        · cases hstep
  | recheck signerId timestamp =>
      rw [secretStep] at hstep
      split at hstep
      · cases hstep
      · next signer hsigner =>
          split at hstep
          · next rowId hphase =>
              split at hstep
              · cases hstep
              · next hwritten =>
                  cases hstep
                  have hwaiting := hsound.signers _ (state.signers.get?_eq_some.mp hsigner)
                  rw [hphase] at hwaiting
                  exact hsound.recheck hwaiting hwritten signer.body timestamp
          · cases hstep
  | stamp signerId =>
      rw [secretStep] at hstep
      split at hstep
      · cases hstep
      · next signer hsigner =>
          split at hstep
          · next rowId request hphase =>
              cases hstep
              have hmem := state.signers.get?_eq_some.mp hsigner
              have hsigned := hsound.signers _ hmem
              rw [hphase] at hsigned
              have hgeneration : request.secretGeneration = 1 := by
                obtain ⟨row, -, -, hone, -⟩ := hsigned
                exact hone
              refine hsound.setSigner ⟨hsigned, hgeneration⟩ ?_
              intro rowId' hshares
              rw [← Option.some.inj hshares]
              refine hsound.free rowId (shared_iff.mpr ⟨_, hmem, ?_⟩)
              rw [hphase]
              rfl
          · cases hstep
  | commitSigned signerId =>
      rw [secretStep] at hstep
      split at hstep
      · cases hstep
      · next signer hsigner =>
          split at hstep
          · next rowId request secretGeneration hphase =>
              cases hstep
              have hstamped := hsound.signers _ (state.signers.get?_eq_some.mp hsigner)
              rw [hphase] at hstamped
              exact hsound.deliver hstamped signerId
          · cases hstep
  | crash signerId =>
      cases hstep
      exact hsound.remove signerId
  | wait elapsed =>
      cases hstep
      exact ⟨hsound.secrets, hsound.rotation, hsound.free, hsound.signers, hsound.verified⟩

/-- A subscription that is not revoked and has one primary secret, before its first rotation
and its first delivery. -/
structure Quiet (state : SecretState) : Prop where
  status : state.status ≠ .revoked
  secrets : OnePrimary state.secrets
  rotation : state.rotation = none
  signers : state.signers.entries = []
  delivered : state.delivered = []

/-- In every run in which no rotation commits while a signer waits for it, every signer finds
a primary secret, and every signature verifies, when its transaction commits, under the
generation on its delivery. -/
theorem neverBroken_of_run (hquiet : Quiet state) {acts : List SecretAct}
    (hrun : Run (secretStep hmacSha256) CommitsUnawaited state acts after) :
    NeverBroken after := by
  have hfirst : state.Sound hmacSha256 := by
    refine ⟨hquiet.secrets, ?_, ?_, ?_, ?_⟩
    · rw [hquiet.rotation]
      nofun
    · intro rowId hshared
      rw [SecretState.written, hquiet.rotation]
      rfl
    · rw [hquiet.signers]
      nofun
    · rw [hquiet.delivered]
      nofun
  have hsound : after.Sound hmacSha256 := hrun.invariant (SecretState.Sound hmacSha256)
    (fun hsound hunawaited hstep => secretStep_sound hsound hunawaited hstep) hfirst
  exact hsound.neverBroken

/-! ## A signer that waits -/

def firstSecret : SecretState where
  status := .active
  secrets := .ofRows [⟨1, [1], none⟩]
  rotation := none
  signers := .empty
  delivered := []
  now := 0

/-- A code that tells two secrets apart. -/
def firstByte (key _ : List UInt8) : String :=
  if key = [1] then "1" else "2"

/-- A rotation that has renamed the primary, and a delivery that signs meanwhile. -/
def signerWaits : List SecretAct :=
  [.claim [0], .rotate, .deletePrevious, .demotePrimary, .load 1 0]

def rolledBack : List SecretAct :=
  signerWaits ++ [.rollbackRotation, .recheck 1 0, .rotate, .deletePrevious, .stamp 1,
    .commitSigned 1, .demotePrimary, .insertPrimary [2], .commitRotation]

def committed : List SecretAct :=
  signerWaits ++ [.insertPrimary [2], .commitRotation, .recheck 1 0]

def secretsEnd (acts : List SecretAct) : SecretState :=
  (execute (secretStep firstByte) (fun _ _ => True) firstSecret acts).getD firstSecret

theorem firstSecret_quiet : Quiet firstSecret where
  status := nofun
  secrets := by
    have hentries : ∀ entry ∈ firstSecret.secrets.entries, entry = (1, ⟨1, [1], none⟩) :=
      fun entry hentry => List.mem_singleton.mp hentry
    refine ⟨?_, ⟨_, List.mem_cons_self, rfl⟩, ?_, ?_⟩
    · intro entry hentry
      rw [hentries entry hentry]
      exact .inl rfl
    · intro entry hentry other hother _ _
      rw [hentries entry hentry, hentries other hother]
    · intro entry hentry _
      rw [hentries entry hentry]
  rotation := rfl
  signers := rfl
  delivered := rfl

theorem neverBroken_rolledBack : NeverBroken (secretsEnd rolledBack) := by
  have hrun : Run (secretStep firstByte) CommitsUnawaited firstSecret rolledBack
      (secretsEnd rolledBack) := Run.ofExecute rfl
  exact neverBroken_of_run firstSecret_quiet hrun

/-- The signer finds its row renamed and does not see the new one, although there is a
primary secret at every moment. -/
theorem waiting_signer_raises :
    Run (secretStep firstByte) (fun _ _ => True) firstSecret committed (secretsEnd committed) ∧
      (secretsEnd committed).signers.entries = [(1, ⟨[0], .raised⟩)] ∧
      (secretsEnd committed).secrets.entries =
        [(1, ⟨2, [1], some dualAccept⟩), (2, ⟨1, [2], none⟩)] ∧
      ¬ NeverBroken (secretsEnd committed) := by
  refine ⟨Run.ofExecute rfl, rfl, rfl, ?_⟩
  intro hnever
  exact hnever.loaded (1, ⟨[0], .raised⟩) List.mem_cons_self rfl

end SentryWms.Webhook.Secrets
