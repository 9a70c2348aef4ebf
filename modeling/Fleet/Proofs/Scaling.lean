import Fleet.Scaling
import Mathlib.Data.List.Chain
import Mathlib.Order.Lattice

/-!
# Bounds and cooldown of scaling decisions

Every decision lies within the bounds of the policy and at most one away from the target that was
asked about. A change starts a cooldown, and nothing else does. The time since the last change
counts as none where the clock went back, so that even then no change comes early: with a cooldown,
changes are ordered by time and a cooldown apart.
-/

namespace Fleet

namespace ScalingPolicy

/-- A target lies within the bounds; where they are inverted, it is the lower one. -/
def Admits (policy : ScalingPolicy) (target : Nat) : Prop :=
  policy.minimum ≤ target ∧ target ≤ max policy.minimum policy.maximum

instance (policy : ScalingPolicy) (target : Nat) : Decidable (policy.Admits target) :=
  inferInstanceAs (Decidable (_ ∧ _))

variable {policy : ScalingPolicy} {target : Nat}

theorem admits_minimum (policy : ScalingPolicy) : policy.Admits policy.minimum :=
  ⟨le_rfl, le_max_left _ _⟩

theorem admits_clamp (policy : ScalingPolicy) (target : Nat) :
    policy.Admits (policy.clamp target) := by
  simp only [Admits, clamp]
  omega

theorem clamp_of_admits (admitted : policy.Admits target) : policy.clamp target = target := by
  simp only [Admits, clamp] at admitted ⊢
  omega

end ScalingPolicy

namespace ScalingDecider

variable {policy : ScalingPolicy}

/-- What a step from a target can be: it stays, or moves by one towards the bound that it has not
reached. -/
theorem step_cases (policy : ScalingPolicy) (current : Nat) (load : Binary64) :
    step policy current load = current ∨
      step policy current load = current + 1 ∧ current < policy.maximum ∨
      step policy current load + 1 = current ∧ policy.minimum < current := by
  simp only [step, Bool.and_eq_true, decide_eq_true_eq]
  split
  · next high => exact Or.inr (Or.inl ⟨rfl, high.2⟩)
  · split
    · next low => exact Or.inr (Or.inr ⟨by omega, low.2⟩)
    · exact Or.inl rfl

theorem admits_step {current : Nat} (admitted : policy.Admits current) (load : Binary64) :
    policy.Admits (step policy current load) := by
  have stepped := step_cases policy current load
  simp only [ScalingPolicy.Admits] at admitted ⊢
  omega

variable (decider : ScalingDecider) (current : Nat) (load : Binary64) (now : Instant)

theorem decide_policy : (decider.decide current load now).2.policy = decider.policy := by
  simp only [decide]
  split
  · rfl
  · dsimp only
    split <;> rfl

theorem admits_decide : decider.policy.Admits (decider.decide current load now).1 := by
  have clamped := decider.policy.admits_clamp current
  simp only [decide]
  split
  · exact clamped
  · exact admits_step clamped load

/-- A decision is the target that was asked about, moved into the bounds, or one more or less. -/
theorem decide_cases :
    (decider.decide current load now).1 = decider.policy.clamp current ∨
      (decider.decide current load now).1 = decider.policy.clamp current + 1 ∨
      (decider.decide current load now).1 + 1 = decider.policy.clamp current := by
  have stepped := step_cases decider.policy (decider.policy.clamp current) load
  simp only [decide]
  split
  · exact Or.inl rfl
  · exact stepped.imp_right (Or.imp And.left And.left)

/-- The decider remembers the time of a change, and what it remembered where nothing changed. -/
theorem decide_lastChange :
    (decider.decide current load now).2.lastChange =
      if (decider.decide current load now).1 = decider.policy.clamp current then
        decider.lastChange
      else some now := by
  simp only [decide]
  split
  · rw [if_pos rfl]
  · dsimp only
    split <;> rfl

variable {decider current load now}

/-- During a cooldown nothing changes. -/
theorem not_inCooldown_of_changes
    (changes : (decider.decide current load now).1 ≠ decider.policy.clamp current) :
    decider.inCooldown now = false := by
  by_contra cooling
  rw [Bool.not_eq_false] at cooling
  simp only [decide, cooling, if_true, ne_eq, not_true_eq_false] at changes

/-- Where a cooldown takes any time, it is over only when that time has passed, also on a clock that
went back. -/
theorem after_cooldown_le (positive : (⟨0⟩ : Duration) < decider.policy.cooldown)
    {change : Instant} (last : decider.lastChange = some change)
    (passed : decider.inCooldown now = false) :
    change.after decider.policy.cooldown ≤ now := by
  simp only [inCooldown, last, decide_eq_false_iff_not] at passed
  change 0 < decider.policy.cooldown.nanoseconds at positive
  change ¬now.nanoseconds - change.nanoseconds < decider.policy.cooldown.nanoseconds at passed
  change change.nanoseconds + decider.policy.cooldown.nanoseconds ≤ now.nanoseconds
  omega

/-! ## Decisions one after the other -/

/-- What a decider is asked: the target, the load and the time. -/
structure Question where
  current : Nat
  load : Binary64
  now : Instant

/-- A decider that is asked. -/
structure Decision where
  decider : ScalingDecider
  question : Question

namespace Decision

/-- The target that was asked about, within the bounds. -/
def origin (decision : Decision) : Nat := decision.decider.policy.clamp decision.question.current

/-- The target that is decided. -/
def target (decision : Decision) : Nat :=
  (decision.decider.decide decision.question.current decision.question.load
    decision.question.now).1

/-- The decider after the decision. -/
def after (decision : Decision) : ScalingDecider :=
  (decision.decider.decide decision.question.current decision.question.load
    decision.question.now).2

/-- Whether the target changes. -/
def changes (decision : Decision) : Bool := decision.target ≠ decision.origin

end Decision

/-- The decisions on questions, each by the decider that the one before left. -/
def decisions : ScalingDecider → List Question → List Decision
  | _, [] => []
  | decider, question :: rest =>
      let decision : Decision := ⟨decider, question⟩
      decision :: decisions decision.after rest

/-- The times at which the decisions on questions change the target. -/
def changeTimes (decider : ScalingDecider) (questions : List Question) : List Instant :=
  ((decider.decisions questions).filter Decision.changes).map (·.question.now)

theorem policy_of_mem_decisions {questions : List Question} {decider : ScalingDecider}
    {decision : Decision} (member : decision ∈ decider.decisions questions) :
    decision.decider.policy = decider.policy := by
  induction questions generalizing decider with
  | nil => cases member
  | cons question rest ih =>
      rcases List.mem_cons.mp member with rfl | later
      · rfl
      · exact (ih later).trans (decide_policy ..)

theorem changeTimes_cons_of_changes {question : Question} (rest : List Question)
    (changes : (Decision.mk decider question).changes = true) :
    decider.changeTimes (question :: rest) =
      question.now :: (Decision.mk decider question).after.changeTimes rest := by
  simp only [changeTimes, decisions]
  rw [List.filter_cons_of_pos changes, List.map_cons]

theorem changeTimes_cons_of_stays {question : Question} (rest : List Question)
    (stays : (Decision.mk decider question).changes = false) :
    decider.changeTimes (question :: rest) =
      (Decision.mk decider question).after.changeTimes rest := by
  simp only [changeTimes, decisions]
  rw [List.filter_cons_of_neg (by simp [stays])]

/-- With a cooldown, changes come a cooldown apart, the first one from the change that the decider
remembers. -/
theorem changeTimes_isChain (questions : List Question) (decider : ScalingDecider)
    (positive : (⟨0⟩ : Duration) < decider.policy.cooldown) :
    (decider.lastChange.toList ++ decider.changeTimes questions).IsChain
      fun earlier later => earlier.after decider.policy.cooldown ≤ later := by
  induction questions generalizing decider with
  | nil => cases decider.lastChange <;> simp [changeTimes, decisions]
  | cons question rest ih =>
      let decision : Decision := ⟨decider, question⟩
      have samePolicy : decision.after.policy = decider.policy := decide_policy ..
      have remembered := decide_lastChange decider question.current question.load question.now
      have others := ih decision.after (samePolicy ▸ positive)
      rw [samePolicy] at others
      by_cases changes : decision.changes = true
      · have different : decision.target ≠ decision.origin := by
          simpa [Decision.changes] using changes
        have noted : decision.after.lastChange = some question.now :=
          remembered.trans (if_neg different)
        rw [noted] at others
        rw [changeTimes_cons_of_changes rest changes]
        cases last : decider.lastChange with
        | none => exact others
        | some change =>
            have apart := after_cooldown_le positive last (not_inCooldown_of_changes different)
            exact List.IsChain.cons_cons apart others
      · rw [Bool.not_eq_true] at changes
        have same : decision.target = decision.origin := by
          simpa [Decision.changes] using changes
        have noted : decision.after.lastChange = decider.lastChange :=
          remembered.trans (if_pos same)
        rw [noted] at others
        rwa [changeTimes_cons_of_stays rest changes]

/-- The cooldown is a hard limit. Whatever a decider is asked, and whatever the clock reads, each
decision lies within the bounds and at most one away from the target that was asked about, and the
decider remembers a new time exactly where the target changes; and where the cooldown takes any
time, changes that follow one another are at least the cooldown apart. -/
theorem cooldown_limits_changes (decider : ScalingDecider) (questions : List Question) :
    (∀ decision ∈ decider.decisions questions,
      decision.decider.policy = decider.policy ∧ decider.policy.Admits decision.target ∧
        decision.target ≤ decision.origin + 1 ∧ decision.origin ≤ decision.target + 1 ∧
        decision.after.lastChange =
          if decision.target = decision.origin then decision.decider.lastChange
          else some decision.question.now) ∧
      ((⟨0⟩ : Duration) < decider.policy.cooldown →
        (decider.lastChange.toList ++ decider.changeTimes questions).IsChain
          fun earlier later => earlier.after decider.policy.cooldown ≤ later) := by
  refine ⟨?_, changeTimes_isChain questions decider⟩
  intro decision member
  have near := decide_cases decision.decider decision.question.current decision.question.load
    decision.question.now
  change decision.target = decision.origin ∨ decision.target = decision.origin + 1 ∨
    decision.target + 1 = decision.origin at near
  have samePolicy := policy_of_mem_decisions member
  refine ⟨samePolicy, ?_, by omega, by omega, decide_lastChange ..⟩
  rw [← samePolicy]
  exact admits_decide ..

/-- The reading of a clock in seconds. -/
def atSecond (seconds : Nat) : Instant := ⟨seconds * Duration.second⟩

/-- A high load over a minute and more, and no load at all where the clock goes back. -/
def busyMinute : List Question :=
  [⟨1, 1, atSecond 10⟩, ⟨2, 1, atSecond 30⟩, ⟨2, 0, atSecond 5⟩, ⟨2, 1, atSecond 70⟩]

/-- With a cooldown of a minute, the load changes the target after ten seconds. Neither twenty
seconds later nor on a clock that went back is there another change, but a minute later there is. -/
theorem changes_a_minute_apart :
    (⟨0⟩ : Duration) < ({} : ScalingPolicy).cooldown ∧
      changeTimes { policy := {} } busyMinute = [atSecond 10, atSecond 70] ∧
      [atSecond 10, atSecond 70].IsChain
        fun earlier later => earlier.after ({} : ScalingPolicy).cooldown ≤ later := by
  have positive : (⟨0⟩ : Duration) < ({} : ScalingPolicy).cooldown := by decide
  have times : changeTimes { policy := {} } busyMinute = [atSecond 10, atSecond 70] := by
    decide +kernel
  have apart := (cooldown_limits_changes { policy := {} } busyMinute).2 positive
  rw [times] at apart
  exact ⟨positive, times, apart⟩

end ScalingDecider

end Fleet
