import Fleet.Launch.Command
import Mathlib.Order.Lattice

/-!
# When there is a launch command

A launch command needs ports for each rank after the first one. The ports of the last rank are the
highest, so that there is a command exactly if those fit into 16 bits.
-/

namespace Fleet

section Steps

variable {Failure Value Other : Type}

/-- Two steps in a row give a value exactly if the second one gives it after the first one. -/
theorem bind_eq_ok_iff {result : Except Failure Value} {next : Value → Except Failure Other}
    {other : Other} :
    (result >>= next) = .ok other ↔ ∃ value, result = .ok value ∧ next value = .ok other := by
  cases result <;> simp [bind, Except.bind]

theorem exists_bind_eq_ok_iff {result : Except Failure Value}
    {next : Value → Except Failure Other} :
    (∃ other, (result >>= next) = .ok other) ↔
      ∃ value, result = .ok value ∧ ∃ other, next value = .ok other := by
  simp only [bind_eq_ok_iff]
  rw [exists_comm]
  simp only [exists_and_left]

theorem exists_pure_eq_ok_iff {value : Value} :
    (∃ other, (pure value : Except Failure Value) = .ok other) ↔ True := by
  simp [pure, Except.pure]

theorem exists_map_eq_ok_iff {result : Except Failure Value} {change : Value → Other} :
    (∃ other, result.map change = .ok other) ↔ ∃ value, result = .ok value := by
  cases result <;> simp [Except.map]

theorem mapError_eq_ok_iff {result : Except Failure Value} {change : Failure → Other}
    {value : Value} : result.mapError change = .ok value ↔ result = .ok value := by
  cases result <;> simp [Except.mapError]

end Steps

namespace PortSet

/-- The highest one of the ports. -/
def highest (ports : PortSet) : Nat :=
  max ports.http.toNat (max ports.grpc.toNat ports.metrics.toNat)

theorem shift_isOk_iff (offset rank : Nat) (base : UInt16) :
    (∃ port, shift offset rank base = .ok port) ↔ base.toNat + offset < UInt16.size := by
  unfold shift
  split <;> simp [*]

/-- A rank has ports exactly if the highest one of them fits. -/
theorem forRank_isOk_iff (ports : PortSet) (rank : Nat) :
    (∃ moved, ports.forRank rank = .ok moved) ↔
      ports.highest + rank * stride < UInt16.size := by
  unfold forRank
  dsimp only
  split
  · next tooFar =>
    simp only [reduceCtorEq, exists_false, false_iff]
    omega
  · have shifted (base : UInt16) := shift_isOk_iff (rank * stride) rank base
    simp only [exists_bind_eq_ok_iff, exists_pure_eq_ok_iff, and_true, exists_and_right, shifted,
      highest]
    omega

end PortSet

namespace LaunchSpec

/-- The part for a rank needs the ports of the rank, unless it is the first one. -/
theorem rankSegment_isOk_iff (spec : LaunchSpec) (path : String) (rank : Nat) :
    (∃ segment, spec.rankSegment path rank = .ok segment) ↔
      rank = 0 ∨ spec.ports.highest + rank * PortSet.stride < UInt16.size := by
  unfold rankSegment
  by_cases first : rank = 0
  · simp [first, bind, Except.bind, pure, Except.pure]
  · rw [← PortSet.forRank_isOk_iff]
    simp only [first, false_or, if_false, exists_bind_eq_ok_iff, exists_map_eq_ok_iff,
      exists_pure_eq_ok_iff, and_true]

/-- There are parts for several ranks if there is one for each of them. -/
theorem rankSegments_isOk_iff (spec : LaunchSpec) (path : String) (count rank : Nat) :
    (∃ segments, spec.rankSegments path count rank = .ok segments) ↔
      ∀ other, rank ≤ other → other < rank + count →
        ∃ segment, spec.rankSegment path other = .ok segment := by
  induction count generalizing rank with
  | zero =>
    simp only [rankSegments, Except.ok.injEq, exists_eq', true_iff]
    omega
  | succ count ih =>
    simp only [rankSegments, exists_bind_eq_ok_iff, exists_pure_eq_ok_iff, and_true,
      exists_and_right, ih]
    constructor
    · rintro ⟨here, later⟩ other above below
      obtain rfl | above := Nat.eq_or_lt_of_le above
      · exact here
      · exact later other above (by omega)
    · exact fun all =>
        ⟨all rank le_rfl (by omega), fun other above below => all other (by omega) (by omega)⟩

/-- There is a launch command for one process always, and for several ones exactly if the ports of
the last one fit. -/
theorem build_isOk_iff (spec : LaunchSpec) :
    (∃ command, spec.build = .ok command) ↔
      spec.worldSize = 1 ∨ 1 < spec.worldSize ∧
        spec.ports.highest + (spec.worldSize - 1) * PortSet.stride < UInt16.size := by
  unfold build
  dsimp only
  generalize spec.worldSize = size
  split
  · next none => simp [none]
  split
  · next tooMany =>
    simp only [UInt32.size, UInt16.size, PortSet.stride, reduceCtorEq, exists_false, false_iff]
      at tooMany ⊢
    omega
  split
  · next one => simp [one]
  · next several =>
    simp only [exists_bind_eq_ok_iff, exists_pure_eq_ok_iff, and_true, rankSegments_isOk_iff,
      rankSegment_isOk_iff, PortSet.stride]
    -- The last rank has the highest ports, so that its ports decide for all ranks.
    constructor
    · intro all
      have last := all (size - 1) (by omega) (by omega)
      omega
    · intro last rank _ below
      omega

end LaunchSpec

end Fleet
