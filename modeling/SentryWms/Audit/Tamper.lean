import SentryWms.Audit.Log

/-!
# Tampering with the audit log

Someone edits the rows of a committed log and leaves the stored hashes as they are. As
long as SHA-256 tells apart what the check hashes, the edit passes unnoticed exactly
when the rows that are left, in the order of their ids, carry the hashes and the hashed
text of the first rows of the log: nothing tells that the last rows are missing, and
columns may change as long as the joined text stays the same.
-/

namespace SentryWms.Audit

open HashChain Transition

/-- The rows of the tampered log are rows of the log with their hashes, each used once;
everything else about them may have changed. -/
structure Tampered (log tampered : List AuditRow) : Prop where
  hashes : (tampered.map fun row => (row.prevHash, row.rowHash)).Subperm
    (log.map fun row => (row.prevHash, row.rowHash))
  keys : (tampered.map AuditRow.logId).Nodup

/-- What the check hashes for a log. -/
def hashedPairs (render : ℤ → String) (rows : List AuditRow) : Set (Bytes × Bytes) :=
  {pair | ∃ row ∈ rows, (block render row).sealed = pair}

/-- SHA-256 gives different hashes to the different pairs of link and payload that the
check hashes, and never the one byte of the genesis anchor. -/
structure CollisionFree (digest : Bytes → Bytes) (render : ℤ → String)
    (log tampered : List AuditRow) : Prop where
  injective : (hashedPairs render log ∪ hashedPairs render tampered).InjOn
    fun pair => sealRow digest pair.1 pair.2
  notGenesis : ∀ bytes, digest bytes ≠ genesis

/-- The rows, in the order of their ids, with the hashes and the hashed text of the
first rows of the log. -/
def KeepsStart (render : ℤ → String) (log tampered : List AuditRow) : Prop :=
  (byLogId tampered).map (block render) <+: (byLogId log).map (block render)

variable {digest : Bytes → Bytes} {render : ℤ → String} {log tampered : List AuditRow}

theorem mem_byLogId {rows : List AuditRow} {row : AuditRow} :
    row ∈ byLogId rows ↔ row ∈ rows :=
  (List.perm_insertionSort _ rows).mem_iff

theorem sealed_mem_of_block {rows : List AuditRow} {sealedRow : Block Bytes Bytes}
    (hmem : sealedRow ∈ (byLogId rows).map (block render)) :
    sealedRow.sealed ∈ hashedPairs render rows := by
  obtain ⟨row, hrow, rfl⟩ := List.mem_map.mp hmem
  exact ⟨row, mem_byLogId.mp hrow, rfl⟩

theorem Tampered.taken (htampered : Tampered log tampered) {sealedRow : Block Bytes Bytes}
    (hmem : sealedRow ∈ (byLogId tampered).map (block render)) :
    ∃ original ∈ (byLogId log).map (block render),
      original.prev = sealedRow.prev ∧ original.hash = sealedRow.hash := by
  obtain ⟨row, hrow, rfl⟩ := List.mem_map.mp hmem
  have hpair := htampered.hashes.subset
    (List.mem_map_of_mem (f := fun row : AuditRow => (row.prevHash, row.rowHash))
      (mem_byLogId.mp hrow))
  obtain ⟨original, horiginal, hsame⟩ := List.mem_map.mp hpair
  exact ⟨block render original, List.mem_map_of_mem (mem_byLogId.mpr horiginal),
    congrArg Prod.fst hsame, congrArg Prod.snd hsame⟩

/-- An edit of a log that verifies is noticed exactly when the rows that are left are
not the start of the log, as far as they are hashed. -/
theorem tampering_noticed_iff_of_verifies
    (hverifies : verifyAuditLogChain digest render log = none)
    (hfree : CollisionFree digest render log tampered)
    (htampered : Tampered log tampered) :
    verifyAuditLogChain digest render tampered ≠ none ↔
      ¬ KeepsStart render log tampered := by
  have hlog := verifyAuditLogChain_eq_none.mp hverifies
  rw [not_iff_not, verifyAuditLogChain_eq_none]
  constructor
  · intro hlinked
    exact hlog.isPrefix hlinked hfree.injective
      (fun sealedRow hmem => .inl (sealed_mem_of_block hmem))
      (fun sealedRow hmem => .inr (sealed_mem_of_block hmem))
      (fun prev body => hfree.notGenesis (prev ++ body))
      (fun sealedRow hmem => htampered.taken hmem)
  · exact fun hstart => hlog.of_prefix hstart

/-- An edit of a committed log is noticed exactly when the rows that are left are not
the start of the log, as far as they are hashed. -/
theorem tampering_noticed_iff {events : List Event} {db : AuditDb}
    (hrun : Run (step digest render) (fun _ _ => True) emptyLog events db)
    (hfree : CollisionFree digest render db.committed tampered)
    (htampered : Tampered db.committed tampered) :
    verifyAuditLogChain digest render tampered ≠ none ↔
      ¬ KeepsStart render db.committed tampered :=
  tampering_noticed_iff_of_verifies (verifies_of_run digest render hrun).committed hfree
    htampered

/-! ## Edits of a log of two rows -/

/-- The two rows that the run commits. -/
def firstRow : AuditRow :=
  auditLogChainHash markedDigest plainTime (adjustment 8) 2 genesis 0

def secondRow : AuditRow :=
  auditLogChainHash markedDigest plainTime (adjustment 9) 3 firstRow.rowHash 0

theorem interleavedEnd_run :
    Run (step markedDigest plainTime) (fun _ _ => True) emptyLog interleavedRun
      interleavedEnd :=
  Run.ofExecute rfl

theorem interleavedEnd_committed : interleavedEnd.committed = [firstRow, secondRow] := rfl

theorem markedDigest_free {log tampered : List AuditRow}
    (hlinks : ∀ row, row ∈ log ∨ row ∈ tampered →
      row.prevHash = genesis ∨ row.prevHash = firstRow.rowHash) :
    CollisionFree markedDigest plainTime log tampered where
  injective := by
    have hanchor : ∀ body body', genesis ++ body ≠ firstRow.rowHash ++ body' := by
      intro body body' hsame
      have hhead : (0 : UInt8) = 1 := (List.cons.inj hsame).1
      exact absurd hhead (by decide)
    have hlink : ∀ pair, pair ∈ hashedPairs plainTime log ∪ hashedPairs plainTime tampered →
        pair.1 = genesis ∨ pair.1 = firstRow.rowHash := by
      rintro pair (⟨row, hrow, rfl⟩ | ⟨row, hrow, rfl⟩)
      · exact hlinks row (.inl hrow)
      · exact hlinks row (.inr hrow)
    rintro ⟨prev, body⟩ hpair ⟨prev', body'⟩ hpair' hsame
    have hbytes : prev ++ body = prev' ++ body' := (List.cons.inj hsame).2
    rcases hlink _ hpair with hprev | hprev <;> rcases hlink _ hpair' with hprev' | hprev' <;>
      dsimp only at hprev hprev' <;> subst hprev <;> subst hprev'
    · rw [List.append_cancel_left hbytes]
    · exact absurd hbytes (hanchor body body')
    · exact absurd hbytes.symm (hanchor body' body)
    · rw [List.append_cancel_left hbytes]
  notGenesis bytes hsame := by
    have hhead : (1 : UInt8) = 0 := (List.cons.inj hsame).1
    exact absurd hhead (by decide)

theorem linksOfRun {row : AuditRow} (hrow : row ∈ [firstRow, secondRow]) :
    row.prevHash = genesis ∨ row.prevHash = firstRow.rowHash := by
  rcases List.mem_cons.mp hrow with rfl | hrow
  · exact .inl rfl
  · rw [List.mem_singleton.mp hrow]
    exact .inr rfl

/-- Deleting the last row goes unnoticed. -/
theorem deleted_tail_unnoticed :
    ¬ ∀ digest render events db tampered,
      Run (step digest render) (fun _ _ => True) emptyLog events db →
      Function.Injective digest → CollisionFree digest render db.committed tampered →
      Tampered db.committed tampered → ¬ tampered.Perm db.committed →
      verifyAuditLogChain digest render tampered ≠ none := by
  intro hclaim
  have hfree : CollisionFree markedDigest plainTime interleavedEnd.committed [firstRow] := by
    apply markedDigest_free
    rintro row (hrow | hrow)
    · exact linksOfRun hrow
    · exact linksOfRun (List.mem_cons.mpr (.inl (List.mem_singleton.mp hrow)))
  have htampered : Tampered interleavedEnd.committed [firstRow] := by
    refine ⟨?_, List.nodup_singleton _⟩
    rw [interleavedEnd_committed]
    exact ((List.nil_sublist _).cons_cons _).subperm
  have hfewer : ¬ [firstRow].Perm interleavedEnd.committed := by
    intro hperm
    exact absurd hperm.length_eq (by decide)
  have hnoticed := hclaim markedDigest plainTime interleavedRun interleavedEnd [firstRow]
    interleavedEnd_run (fun _ _ hsame => (List.cons.inj hsame).2) hfree htampered hfewer
  exact hnoticed rfl

def editedRow : AuditRow := { firstRow with details := some "-30" }

theorem tampering_noticed_editedRow :
    verifyAuditLogChain markedDigest plainTime [editedRow, secondRow] ≠ none ↔
      ¬ KeepsStart plainTime interleavedEnd.committed [editedRow, secondRow] := by
  have hfree : CollisionFree markedDigest plainTime interleavedEnd.committed
      [editedRow, secondRow] := by
    apply markedDigest_free
    rintro row (hrow | hrow)
    · exact linksOfRun hrow
    · rcases List.mem_cons.mp hrow with rfl | hrow
      · exact .inl rfl
      · exact linksOfRun (List.mem_cons_of_mem _ hrow)
  have htampered : Tampered interleavedEnd.committed [editedRow, secondRow] := by
    refine ⟨?_, by decide⟩
    rw [interleavedEnd_committed]
    exact List.Subperm.refl _
  exact tampering_noticed_iff interleavedEnd_run hfree htampered

end SentryWms.Audit
