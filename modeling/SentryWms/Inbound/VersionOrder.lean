import SentryWms.Core.Fallback
import SentryWms.Inbound.Version

/-!
# The order of versions

`_is_newer` reads both versions and compares what it reads, or the texts where one of them
does not parse. On a set of versions this is a strict weak order exactly when no offset is
missing beside others and no unreadable version stands between two that are read the other
way round.
-/

namespace SentryWms.Inbound

open Fallback

/-! ## Readers -/

/-- `int` and `datetime.fromisoformat`, where they do not raise a `ValueError`. -/
structure Readers where
  int : String → Option ℤ
  fromIsoFormat : String → Option DateTime

/-- Python's own ones. -/
def python : Readers where
  int := PyText.parseInt
  fromIsoFormat := Inbound.fromIsoFormat

variable (readers : Readers)

def isNewerBy (strategy : VersionCompare) (server incoming : String) :
    Except VersionError Bool :=
  match strategy with
  | .isoTimestamp =>
      match readers.fromIsoFormat server, readers.fromIsoFormat incoming with
      | some left, some right => left.gt right
      | _, _ => .ok (textGt server incoming)
  | .integer =>
      match readers.int server, readers.int incoming with
      | some left, some right => .ok (decide (right < left))
      | _, _ => .ok (textGt server incoming)
  | .lexicographic => .ok (textGt server incoming)

theorem isNewer_eq : isNewer = isNewerBy python := rfl

/-- The instant of a timestamp; without an offset, its local time. -/
def DateTime.instant (time : DateTime) : ℤ :=
  time.microseconds - time.offset.getD 0

def reading : VersionCompare → String → Option ℤ
  | .isoTimestamp, version => (readers.fromIsoFormat version).map DateTime.instant
  | .integer, version => readers.int version
  | .lexicographic, _ => none

/-- A comparison that returns for all members of a set and is a strict weak order on them. -/
structure StrictWeakOn (newer : String → String → Except VersionError Bool)
    (versions : Set String) : Prop where
  returns : ∀ left ∈ versions, ∀ right ∈ versions, ∃ flag, newer left right = .ok flag
  irrefl : ∀ version ∈ versions, newer version version ≠ .ok true
  trans : ∀ first ∈ versions, ∀ second ∈ versions, ∀ third ∈ versions,
    newer first second = .ok true → newer second third = .ok true →
      newer first third = .ok true
  equivalence : Equivalence fun left right : versions =>
    newer left right ≠ .ok true ∧ newer right left ≠ .ok true

/-- All timestamps have an offset or none has, and an unreadable version stands between two
others only if these are read in the order of their texts. -/
structure Comparable (strategy : VersionCompare) (versions : Set String) : Prop where
  zoned : strategy = .isoTimestamp → ∀ left ∈ versions, ∀ right ∈ versions, ∀ first second,
    readers.fromIsoFormat left = some first → readers.fromIsoFormat right = some second →
      first.offset.isSome = second.offset.isSome
  separates : Separates (reading readers strategy) versions

/-! ## What the comparison decides -/

variable {readers} {strategy : VersionCompare}

theorem DateTime.gt_of_zoned {left right : DateTime}
    (hzoned : left.offset.isSome = right.offset.isSome) :
    left.gt right = .ok (decide (right.instant < left.instant)) := by
  rw [DateTime.gt, DateTime.instant, DateTime.instant]
  cases hleft : left.offset <;> cases hright : right.offset <;>
    simp [hleft, hright] at hzoned ⊢

theorem DateTime.gt_of_not_zoned {left right : DateTime}
    (hzoned : left.offset.isSome ≠ right.offset.isSome) :
    left.gt right = .error .naiveAndAware := by
  rw [DateTime.gt]
  cases hleft : left.offset <;> cases hright : right.offset <;>
    simp [hleft, hright] at hzoned ⊢

theorem textGt_iff {server incoming : String} : textGt server incoming = true ↔
    incoming < server := by
  rw [textGt, decide_eq_true_eq]

/-- Where the comparison returns, it is the comparison with a fallback. -/
theorem isNewerBy_eq_true_iff {server incoming : String}
    (hzoned : strategy = .isoTimestamp → ∀ first second,
      readers.fromIsoFormat server = some first → readers.fromIsoFormat incoming = some second →
        first.offset.isSome = second.offset.isSome) :
    (∃ flag, isNewerBy readers strategy server incoming = .ok flag) ∧
      (isNewerBy readers strategy server incoming = .ok true ↔
        Less (reading readers strategy) incoming server) := by
  cases strategy with
  | isoTimestamp =>
      rw [isNewerBy, Less, reading, reading]
      cases hserver : readers.fromIsoFormat server with
      | none =>
          refine ⟨⟨_, rfl⟩, ?_⟩
          cases readers.fromIsoFormat incoming <;>
            simp [textGt_iff]
      | some first =>
          cases hincoming : readers.fromIsoFormat incoming with
          | none => exact ⟨⟨_, rfl⟩, by simp [textGt_iff]⟩
          | some second =>
              dsimp only
              rw [DateTime.gt_of_zoned (hzoned rfl first second hserver hincoming)]
              exact ⟨⟨_, rfl⟩, by simp⟩
  | integer =>
      rw [isNewerBy, Less, reading, reading]
      cases readers.int server <;> cases readers.int incoming <;>
        exact ⟨⟨_, rfl⟩, by simp [textGt_iff]⟩
  | lexicographic => exact ⟨⟨_, rfl⟩, by simp [isNewerBy, Less, reading, textGt_iff]⟩

/-- `_is_newer` is a strict weak order on a set of versions exactly when they are comparable. -/
theorem strictWeakOn_iff (readers : Readers) (strategy : VersionCompare)
    (versions : Set String) :
    StrictWeakOn (isNewerBy readers strategy) versions ↔
      Comparable readers strategy versions := by
  constructor
  · intro horder
    have hzoned : strategy = .isoTimestamp → ∀ left ∈ versions, ∀ right ∈ versions,
        ∀ first second, readers.fromIsoFormat left = some first →
          readers.fromIsoFormat right = some second →
            first.offset.isSome = second.offset.isSome := by
      rintro rfl left hleft right hright first second hfirst hsecond
      by_contra hdiffer
      obtain ⟨flag, hflag⟩ := horder.returns left hleft right hright
      rw [isNewerBy, hfirst, hsecond] at hflag
      dsimp only at hflag
      rw [DateTime.gt_of_not_zoned hdiffer] at hflag
      cases hflag
    have hless : ∀ left ∈ versions, ∀ right ∈ versions,
        (isNewerBy readers strategy right left = .ok true ↔
          Less (reading readers strategy) left right) :=
      fun left hleft right hright =>
        (isNewerBy_eq_true_iff fun hiso => hzoned hiso right hright left hleft).2
    refine ⟨hzoned, separates_of_trans ?_⟩
    intro first hfirst second hsecond third hthird hlow hhigh
    rw [← hless first hfirst second hsecond] at hlow
    rw [← hless second hsecond third hthird] at hhigh
    rw [← hless first hfirst third hthird]
    exact horder.trans third hthird second hsecond first hfirst hhigh hlow
  · intro hcomparable
    have hless : ∀ left ∈ versions, ∀ right ∈ versions,
        (∃ flag, isNewerBy readers strategy right left = .ok flag) ∧
          (isNewerBy readers strategy right left = .ok true ↔
            Less (reading readers strategy) left right) :=
      fun left hleft right hright =>
        isNewerBy_eq_true_iff fun hiso => hcomparable.zoned hiso right hright left hleft
    constructor
    · exact fun left hleft right hright => (hless right hright left hleft).1
    · intro version hversion
      rw [Ne, (hless version hversion version hversion).2]
      exact less_irrefl version
    · intro first hfirst second hsecond third hthird hnewer hnewest
      rw [(hless second hsecond first hfirst).2] at hnewer
      rw [(hless third hthird second hsecond).2] at hnewest
      rw [(hless third hthird first hfirst).2]
      exact less_trans hcomparable.separates hthird hsecond hfirst hnewest hnewer
    · have hsame : (fun left right : versions =>
          isNewerBy readers strategy left right ≠ .ok true ∧
            isNewerBy readers strategy right left ≠ .ok true) =
          fun left right : versions => ¬ Less (reading readers strategy) left.1 right.1 ∧
            ¬ Less (reading readers strategy) right.1 left.1 := by
        funext left right
        rw [Ne, Ne, (hless right right.2 left left.2).2, (hless left left.2 right right.2).2,
          and_comm]
      rw [hsame]
      exact incomparable_equivalence _ versions

/-- Nine is newer than an unreadable version, which is newer than ten. -/
theorem integers_not_ordered :
    ¬ ∀ strategy, StrictWeakOn (isNewer strategy) Set.univ := by
  intro horder
  have htrans := (horder .integer).trans "9" trivial "1x" trivial "10" trivial
    (by decide +kernel) (by decide +kernel)
  exact absurd htrans (by decide +kernel)

example : isNewer .isoTimestamp "2026-01-02T00:00:00" "2026-01-01T00:00:00Z" =
    .error .naiveAndAware := by
  decide +kernel

end SentryWms.Inbound
