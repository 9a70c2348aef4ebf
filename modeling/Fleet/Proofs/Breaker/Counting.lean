import Fleet.Proofs.Breaker.Traffic

/-!
# The counters of a breaker

Beside its state a breaker keeps a number of failures, a number of probes and the time of its last
opening. What they mean depends on the state: a closed breaker has counted the failures in a row
and is short of the threshold, an open one has reached the threshold, and a half-open one has
admitted at least one probe and at most the quota.

The history decides on the number of failures. While the breaker is closed, it is the number of
failures since the last success or reset. A breaker that closes again does so by one of these, so
that no failure from before counts for it.
-/

namespace Fleet

namespace Usage

/-- Whether something is the report of a failure. -/
def isFailure : Usage → Bool
  | report _ (.error _) => true
  | _ => false

/-- Whether something leaves no failure behind: the report of a success, or a reset. -/
def isClearing : Usage → Bool
  | report _ (.ok _) | reset => true
  | _ => false

end Usage

namespace Breaker

variable {breaker : Breaker} {row : Nat}

/-- What a breaker has counted, where the last `row` results were failures. -/
inductive Tallied (row : Nat) (breaker : Breaker) : Prop
  | closed (state : breaker.state = .closed) (undated : breaker.openedAt = none)
      (unprobed : breaker.probes = 0) (few : breaker.failures < breaker.threshold)
      (counted : breaker.failures = row)
  | opened (state : breaker.state = .opened) (dated : breaker.openedAt.isSome = true)
      (unprobed : breaker.probes = 0) (full : breaker.failures = breaker.threshold)
  | halfOpen (state : breaker.state = .halfOpen) (dated : breaker.openedAt.isSome = true)
      (probed : 1 ≤ breaker.probes) (within : breaker.probes ≤ breaker.probeLimit)
      (full : breaker.failures = breaker.threshold)

theorem threshold_pos (breaker : Breaker) : 0 < breaker.threshold :=
  Nat.lt_of_lt_of_le Nat.zero_lt_one (Nat.le_max_right ..)

theorem probeLimit_pos (breaker : Breaker) : 1 ≤ breaker.probeLimit :=
  Nat.le_max_right ..

theorem tallied_reset (breaker : Breaker) : Tallied 0 breaker.reset :=
  .closed rfl rfl rfl breaker.threshold_pos rfl

namespace Tallied

theorem allow (tallied : Tallied row breaker) (now : Instant) :
    Tallied row (breaker.allow now).2 := by
  cases tallied with
  | closed state undated unprobed few counted =>
      rw [allow_of_closed state]
      exact .closed state undated unprobed few counted
  | opened state dated unprobed full =>
      simp only [Breaker.allow, state]
      split
      · exact .halfOpen rfl dated le_rfl breaker.probeLimit_pos full
      · exact .opened state dated unprobed full
  | halfOpen state dated probed within full =>
      simp only [Breaker.allow, state]
      split
      · next remaining => exact .halfOpen rfl dated (Nat.le_add_left ..) remaining full
      · exact .halfOpen state dated probed within full

theorem onSuccess (tallied : Tallied row breaker) : Tallied 0 breaker.onSuccess := by
  cases tallied with
  | closed state undated unprobed =>
      simp only [Breaker.onSuccess, state]
      exact .closed rfl undated unprobed breaker.threshold_pos rfl
  | opened state dated unprobed full =>
      simp only [Breaker.onSuccess, state]
      exact .opened state dated unprobed full
  | halfOpen state =>
      simp only [Breaker.onSuccess, state]
      exact breaker.tallied_reset

/-- A failure counts where the breaker is closed, and opens it there when it fills the row. -/
theorem onFailure (tallied : Tallied row breaker) (now : Instant) :
    Tallied (row + 1) (breaker.onFailure now) := by
  cases tallied with
  | closed state undated unprobed few counted =>
      simp only [Breaker.onFailure, state]
      split
      · next reached => exact .opened rfl rfl unprobed (le_antisymm few reached)
      · next short =>
          exact .closed rfl undated unprobed (Nat.lt_of_not_le short) (congrArg (· + 1) counted)
  | opened state dated unprobed full =>
      simp only [Breaker.onFailure, state]
      exact .opened state dated unprobed full
  | halfOpen state dated probed within full =>
      simp only [Breaker.onFailure, state]
      exact .opened rfl rfl rfl full

theorem of_closed (tallied : Tallied row breaker) (closed : breaker.state = .closed) :
    breaker.openedAt = none ∧ breaker.probes = 0 ∧ breaker.failures = row ∧
      breaker.failures < breaker.threshold := by
  cases tallied with
  | closed state undated unprobed few counted => exact ⟨undated, unprobed, counted, few⟩
  | opened state | halfOpen state => simp [state] at closed

theorem of_not_closed (tallied : Tallied row breaker) (unclosed : breaker.state ≠ .closed) :
    breaker.openedAt.isSome = true ∧ breaker.failures = breaker.threshold := by
  cases tallied with
  | closed state => exact absurd state unclosed
  | opened state dated unprobed full => exact ⟨dated, full⟩
  | halfOpen state dated probed within full => exact ⟨dated, full⟩

theorem of_halfOpen (tallied : Tallied row breaker) (halfOpen : breaker.state = .halfOpen) :
    1 ≤ breaker.probes ∧ breaker.probes ≤ breaker.probeLimit := by
  cases tallied with
  | closed state | opened state => simp [state] at halfOpen
  | halfOpen state dated probed within full => exact ⟨probed, within⟩

theorem failures_le (tallied : Tallied row breaker) : breaker.failures ≤ breaker.threshold := by
  cases tallied with
  | closed state undated unprobed few counted => exact few.le
  | opened state dated unprobed full => exact full.le
  | halfOpen state dated probed within full => exact full.le

theorem probes_le (tallied : Tallied row breaker) : breaker.probes ≤ breaker.probeLimit := by
  cases tallied with
  | closed state undated unprobed few counted => exact unprobed.trans_le (Nat.zero_le _)
  | opened state dated unprobed full => exact unprobed.trans_le (Nat.zero_le _)
  | halfOpen state dated probed within full => exact within

end Tallied

theorem onFailure_state_ne_closed_iff (closed : breaker.state = .closed) (now : Instant) :
    (breaker.onFailure now).state ≠ .closed ↔ breaker.threshold ≤ breaker.failures + 1 := by
  simp only [onFailure, closed]
  split
  · next reached => exact iff_of_true BreakerState.noConfusion reached
  · next short => exact iff_of_false (fun opened => opened rfl) short

end Breaker

namespace Traffic

/-- The failures in a row at the end of a history: those since the last success or reset. -/
def failuresInRow (usages : List Usage) : Nat :=
  (usages.reverse.takeWhile (!·.isClearing)).countP Usage.isFailure

theorem failuresInRow_concat (usages : List Usage) (usage : Usage) :
    failuresInRow (usages ++ [usage]) =
      if usage.isClearing then 0
      else failuresInRow usages + if usage.isFailure then 1 else 0 := by
  simp only [failuresInRow, List.reverse_append, List.reverse_singleton, List.singleton_append,
    List.takeWhile_cons]
  cases usage.isClearing with
  | true => rfl
  | false => exact List.countP_cons

variable {origin : Traffic}

theorem tallied_after (untouched : origin.breaker.Tallied 0) (usages : List Usage) :
    (origin.after usages).breaker.Tallied (failuresInRow usages) := by
  induction usages using List.reverseRecOn with
  | nil => exact untouched
  | append_singleton usages usage ih =>
      rw [after_concat, failuresInRow_concat]
      cases usage with
      | ask call => exact ih.allow _
      | report call result =>
          cases result with
          | ok => exact ih.onSuccess
          | error => exact ih.onFailure _
      | reset => exact Breaker.tallied_reset _
      | pass duration => exact ih

/-- What leaves a closed breaker not closed is the failure that fills the row. -/
theorem take_state_ne_closed_iff {usages : List Usage} (untouched : origin.breaker.Tallied 0)
    (closed : (origin.after usages).breaker.state = .closed) (usage : Usage) :
    ((origin.after usages).take usage).breaker.state ≠ .closed ↔
      usage.isFailure = true ∧
        failuresInRow (usages ++ [usage]) = (origin.after usages).breaker.threshold := by
  -- All but a failure leave a closed breaker closed.
  have quiet (same : ((origin.after usages).take usage).breaker.state = .closed)
      (noFailure : usage.isFailure = false) :
      ((origin.after usages).take usage).breaker.state ≠ .closed ↔
        usage.isFailure = true ∧
          failuresInRow (usages ++ [usage]) = (origin.after usages).breaker.threshold := by
    refine iff_of_false (fun left => left same) ?_
    rintro ⟨failure, -⟩
    rw [noFailure] at failure
    cases failure
  cases usage with
  | ask call =>
      refine quiet ?_ rfl
      simp only [take, Breaker.allow_of_closed closed]
      exact closed
  | report call result =>
      cases result with
      | ok =>
          refine quiet ?_ rfl
          simp only [take, Breaker.report, Breaker.onSuccess, closed]
      | error failure =>
          rcases (tallied_after untouched usages).of_closed closed with ⟨-, -, counted, few⟩
          have longer : failuresInRow (usages ++ [.report call (.error failure)]) =
              failuresInRow usages + 1 := failuresInRow_concat ..
          refine (Breaker.onFailure_state_ne_closed_iff closed _).trans ?_
          rw [longer, ← counted]
          exact ⟨fun reached => ⟨rfl, le_antisymm few reached⟩, fun filled => filled.2.ge⟩
  | reset => exact quiet rfl rfl
  | pass duration => exact quiet closed rfl

/-- A breaker closes again by a success or by a reset. -/
theorem isClearing_of_closes {traffic : Traffic} {usage : Usage}
    (unclosed : traffic.breaker.state ≠ .closed)
    (closes : (traffic.take usage).breaker.state = .closed) : usage.isClearing = true := by
  cases usage with
  | ask call =>
      simp only [take, Breaker.allow] at closes
      cases state : traffic.breaker.state with
      | closed => exact absurd state unclosed
      | opened | halfOpen =>
          simp only [state] at closes
          split at closes <;> simp [state] at closes
  | report call result =>
      cases result with
      | ok => rfl
      | error =>
          simp only [take, Breaker.report, Breaker.onFailure] at closes
          cases state : traffic.breaker.state with
          | closed => exact absurd state unclosed
          | opened | halfOpen => simp [state] at closes
  | reset => rfl
  | pass duration => exact absurd closes unclosed

/-- The counters of a breaker follow from its history. While it is closed, it has counted the
failures since the last success or reset, and these are fewer than the threshold; otherwise it has
counted as many as the threshold and knows when it opened. While it is half open, it has counted at
least one probe and at most the quota. So neither number outgrows a word of 32 bits. The breaker is
closed until the failure that fills the row, and closes again by a success or a reset only. -/
theorem counters_follow_history (name : String) (settings : BreakerSettings)
    (beginning : Instant) (usages : List Usage) :
    let traffic := (start name settings beginning).after usages
    let breaker := traffic.breaker
    let threshold := max settings.failureThreshold 1
    let quota := max settings.halfOpenProbes 1
    (breaker.state = .closed → breaker.openedAt = none ∧ breaker.probes = 0 ∧
      breaker.failures = failuresInRow usages ∧ breaker.failures < threshold) ∧
    (breaker.state = .opened ∨ breaker.state = .halfOpen →
      breaker.openedAt.isSome = true ∧ breaker.failures = threshold) ∧
    (breaker.state = .halfOpen → 1 ≤ breaker.probes ∧ breaker.probes ≤ quota) ∧
    (settings.failureThreshold < UInt32.size → settings.halfOpenProbes < UInt32.size →
      breaker.failures < UInt32.size ∧ breaker.probes < UInt32.size) ∧
    (breaker.state = .closed → ∀ usage, (traffic.take usage).breaker.state ≠ .closed ↔
      usage.isFailure = true ∧ failuresInRow (usages ++ [usage]) = threshold) ∧
    (breaker.state ≠ .closed → ∀ usage, (traffic.take usage).breaker.state = .closed →
      usage.isClearing = true) := by
  have untouched : (start name settings beginning).breaker.Tallied 0 :=
    .closed rfl rfl rfl (Breaker.threshold_pos _) rfl
  have tallied := tallied_after untouched usages
  have threshold : ((start name settings beginning).after usages).breaker.threshold =
      max settings.failureThreshold 1 := threshold_after ..
  have quota : ((start name settings beginning).after usages).breaker.probeLimit =
      max settings.halfOpenProbes 1 := probeLimit_after ..
  refine ⟨?_, ?_, ?_, ?_, ?_, fun unclosed _ => isClearing_of_closes unclosed⟩
  · intro closed
    exact threshold ▸ tallied.of_closed closed
  · intro unclosed
    rw [← threshold]
    apply tallied.of_not_closed
    intro closed
    simp [closed] at unclosed
  · intro halfOpen
    exact quota ▸ tallied.of_halfOpen halfOpen
  · intro failuresFit probesFit
    have word : 1 < UInt32.size := by decide
    exact ⟨(threshold ▸ tallied.failures_le).trans_lt (max_lt failuresFit word),
      (quota ▸ tallied.probes_le).trans_lt (max_lt probesFit word)⟩
  · intro closed usage
    exact threshold ▸ take_state_ne_closed_iff untouched closed usage

/-- Of three failures the first one is forgotten with the success that follows it. The third one
after the success opens the breaker. -/
theorem counters_after_success :
    let origin := start "node" { failureThreshold := 3 } ⟨0⟩
    let usages := [.report 1 (.error ()), .report 2 (.ok ()), .report 3 (.error ()),
      .report 4 (.error ())]
    (origin.after usages).breaker.state = .closed ∧ (origin.after usages).breaker.failures = 2 ∧
      ((origin.after usages).take (.report 5 (.error ()))).breaker.state ≠ .closed := by
  intro origin usages
  have closed : (origin.after usages).breaker.state = .closed := by decide
  rcases counters_follow_history "node" { failureThreshold := 3 } ⟨0⟩ usages with
    ⟨counted, -, -, -, leaves, -⟩
  exact ⟨closed, (counted closed).2.2.1.trans (by decide), (leaves closed _).mpr (by decide)⟩

end Traffic

end Fleet
