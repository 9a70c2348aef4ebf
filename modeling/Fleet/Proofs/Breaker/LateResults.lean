import Fleet.Proofs.Breaker.Admission

/-!
# Late results

A call may be slow: the breaker opens while it is out, rests, and may be half open or closed again
when the result comes. Such a call is stale. While the breaker is open, whoever is out is stale, and
no result is heeded. But the breaker keeps no record of who reports. Once it is half open, it takes
a stale result for that of a probe, and once it is closed, the result counts like any other.

The argument carries along, for every call that is out, that it is stale or that the breaker has not
opened since the call was admitted, so that the call is a probe of the episode if there is one.
-/

namespace Fleet

/-- A result that changes nothing comes to an open breaker, or is a success for a closed one that
has counted no failure. -/
theorem Breaker.report_eq_self_iff (breaker : Breaker) (now : Instant)
    (result : Except Unit Unit) :
    breaker.report now result = breaker ↔
      breaker.state = .opened ∨
        breaker.state = .closed ∧ breaker.failures = 0 ∧ result = .ok () := by
  cases state : breaker.state with
  | opened =>
      refine iff_of_true ?_ (Or.inl rfl)
      cases result <;> simp only [report, onSuccess, onFailure, state]
  | closed =>
      cases result with
      | ok =>
          simp only [report, onSuccess, state, true_and, and_true, reduceCtorEq, false_or]
          refine ⟨fun same => ?_, fun none => ?_⟩
          · rw [← same]
          · rw [← none, ← state]
      | error =>
          refine iff_of_false (fun same => ?_) (by simp)
          have counted : (breaker.onFailure now).failures = breaker.failures + 1 := by
            simp only [onFailure, state]
            split <;> rfl
          rw [report] at same
          rw [same] at counted
          exact Nat.succ_ne_self _ counted.symm
  | halfOpen =>
      refine iff_of_false (fun same => ?_) (by simp)
      apply report_state_ne_halfOpen breaker now result
      rw [same, state]

/-- Who is admitted leaves the breaker closed or half open. -/
theorem Breaker.not_opened_of_allow {breaker : Breaker} {now : Instant}
    (admitted : (breaker.allow now).1 = true) : (breaker.allow now).2.state ≠ .opened := by
  cases state : breaker.state with
  | closed => simp [allow_of_closed state, state]
  | opened => simp [(allow_of_opened state admitted).1]
  | halfOpen =>
      simp only [allow, state]
      split <;> simp [state]

namespace Traffic

/-- The breaker has opened since a call asked. -/
def IsStale (origin : Traffic) (usages : List Usage) (call : Nat) : Prop :=
  ∃ earlier between opening later, usages = earlier ++ .ask call :: between ++ opening :: later ∧
    (origin.after (earlier ++ .ask call :: between)).Opens opening

/-- The breaker has been half open since a call was admitted. -/
def IsProbe (origin : Traffic) (usages : List Usage) (call : Nat) : Prop :=
  ∃ earlier later, usages = earlier ++ .ask call :: later ∧
    ∀ middle, middle <+: later →
      (origin.after (earlier ++ .ask call :: middle)).breaker.state = .halfOpen

variable {origin : Traffic} {usages : List Usage} {usage : Usage} {call : Nat}

/-! ## Stale calls and probes -/

theorem IsStale.concat (stale : IsStale origin usages call) (usage : Usage) :
    IsStale origin (usages ++ [usage]) call := by
  rcases stale with ⟨earlier, between, opening, later, rfl, opens⟩
  exact ⟨earlier, between, opening, later ++ [usage], by simp, opens⟩

/-- Who asked before the breaker opens is stale from then on. -/
theorem IsStale.of_opens (asked : .ask call ∈ usages) (opens : (origin.after usages).Opens usage) :
    IsStale origin (usages ++ [usage]) call := by
  rcases List.append_of_mem asked with ⟨earlier, between, rfl⟩
  exact ⟨earlier, between, usage, [], rfl, opens⟩

theorem IsProbe.concat (probe : IsProbe origin usages call)
    (halfOpen : (origin.after (usages ++ [usage])).breaker.state = .halfOpen) :
    IsProbe origin (usages ++ [usage]) call := by
  rcases probe with ⟨earlier, later, rfl, lasting⟩
  exact ⟨earlier, later ++ [usage], by simp, lasting_concat lasting halfOpen⟩

/-- Who is let in by a breaker that is half open then is a probe. -/
theorem IsProbe.of_ask
    (halfOpen : (origin.after (usages ++ [.ask call])).breaker.state = .halfOpen) :
    IsProbe origin (usages ++ [.ask call]) call :=
  ⟨usages, [], rfl, lasting_nil halfOpen⟩

theorem Orderly.asks_once {earlier later : List Usage}
    (orderly : Orderly origin (earlier ++ .ask call :: later)) :
    .ask call ∉ earlier ∧ .ask call ∉ later := by
  refine ⟨orderly earlier (.ask call) later rfl, ?_⟩
  intro again
  rcases List.append_of_mem again with ⟨between, rest, rfl⟩
  have unasked : .ask call ∉ earlier ++ .ask call :: between :=
    orderly (earlier ++ .ask call :: between) (.ask call) rest (by simp)
  apply unasked
  simp

theorem IsProbe.not_stale (probe : IsProbe origin usages call) (orderly : Orderly origin usages) :
    ¬IsStale origin usages call := by
  rcases probe with ⟨before, rest, rfl, lasting⟩
  rintro ⟨earlier, between, opening, later, split, opens⟩
  rcases orderly.asks_once with ⟨unasked, unaskedLater⟩
  rw [List.append_assoc, List.cons_append,
    List.append_cons_inj_of_notMem unasked unaskedLater] at split
  obtain ⟨rfl, -, rfl⟩ := split
  have halfOpen := lasting (between ++ [opening]) (by simp)
  have opened := opens.2
  rw [← after_concat, List.append_assoc, List.cons_append, halfOpen] at opened
  cases opened

/-- Who is out is stale, or the breaker has not opened since it was admitted. -/
theorem stale_or_current (unused : origin.outstanding = [])
    (out : call ∈ (origin.after usages).outstanding) :
    IsStale origin usages call ∨
      (origin.after usages).breaker.state ≠ .opened ∧
        ((origin.after usages).breaker.state = .halfOpen → IsProbe origin usages call) := by
  induction usages using List.reverseRecOn with
  | nil =>
      change call ∈ origin.outstanding at out
      rw [unused] at out
      cases out
  | append_singleton usages usage ih =>
      -- A call that was out before stays what it was, unless the breaker opens now. A probe stays
      -- one, for nothing but its own admission could have made the breaker half open.
      have extend (before : call ∈ (origin.after usages).outstanding)
          (kept : (origin.after usages).breaker.state ≠ .opened →
            (origin.after (usages ++ [usage])).breaker.state = .halfOpen →
              (origin.after usages).breaker.state = .halfOpen) :
          IsStale origin (usages ++ [usage]) call ∨
            (origin.after (usages ++ [usage])).breaker.state ≠ .opened ∧
              ((origin.after (usages ++ [usage])).breaker.state = .halfOpen →
                IsProbe origin (usages ++ [usage]) call) := by
        rcases ih before with stale | ⟨unopened, probe⟩
        · exact Or.inl (stale.concat usage)
        · by_cases opened : (origin.after (usages ++ [usage])).breaker.state = .opened
          · refine Or.inl (.of_opens (asked_of_outstanding before unused) ⟨unopened, ?_⟩)
            rwa [← after_concat]
          · refine Or.inr ⟨opened, fun halfOpen => ?_⟩
            exact (probe (kept unopened halfOpen)).concat halfOpen
      have taken : origin.after (usages ++ [usage]) = (origin.after usages).take usage :=
        after_concat ..
      cases usage with
      | ask other =>
          have remains (before : call ∈ (origin.after usages).outstanding) :=
            extend before fun unopened halfOpen => by
              rw [taken] at halfOpen
              exact (Breaker.halfOpen_of_allow halfOpen).resolve_right fun opened =>
                unopened opened.1
          rw [taken] at out
          simp only [take] at out
          split at out
          · next admitted =>
              rcases List.mem_cons.mp out with rfl | before
              · refine Or.inr ⟨?_, .of_ask⟩
                rw [taken]
                exact Breaker.not_opened_of_allow admitted
              · exact remains before
          · exact remains out
      | report other result =>
          rw [taken] at out
          apply extend (List.mem_of_mem_erase out)
          intro _ halfOpen
          rw [taken] at halfOpen
          exact absurd halfOpen (Breaker.report_state_ne_halfOpen _ _ result)
      | reset =>
          rw [taken] at out
          apply extend out
          intro _ halfOpen
          rw [taken] at halfOpen
          cases halfOpen
      | pass duration =>
          rw [taken] at out
          apply extend out
          intro _ halfOpen
          rwa [taken] at halfOpen

/-- A half-open breaker stays so until a result comes or somebody resets it. -/
theorem ends_of_not_halfOpen {traffic : Traffic} (halfOpen : traffic.breaker.state = .halfOpen)
    (ends : (traffic.take usage).breaker.state ≠ .halfOpen) :
    usage = .reset ∨ ∃ call result, usage = .report call result := by
  cases usage with
  | ask call =>
      apply absurd _ ends
      simp only [take, Breaker.allow, halfOpen]
      split
      · rfl
      · exact halfOpen
  | report call result => exact Or.inr ⟨call, result, rfl⟩
  | reset => exact Or.inl rfl
  | pass duration => exact absurd halfOpen ends

/-- Stale results are ignored while the breaker is open, and not longer. However calls share a fresh
breaker, the result of a stale call changes nothing exactly where the breaker is still open, or is
closed without a failure and hears of a success. While the breaker is open, everyone who is out is
stale. While it is half open, whoever is out is stale or a probe of the episode, and the breaker
does not tell them apart: a success closes it and a failure opens it again. Nothing else but a reset
ends the episode. -/
theorem stale_results_ignored_while_open (name : String) (settings : BreakerSettings)
    (beginning : Instant) {usages : List Usage}
    (orderly : Orderly (start name settings beginning) usages) :
    let origin := start name settings beginning
    let traffic := origin.after usages
    (∀ call ∈ traffic.outstanding, IsStale origin usages call → ∀ result,
      ((traffic.take (.report call result)).breaker = traffic.breaker ↔
        traffic.breaker.state = .opened ∨
          traffic.breaker.state = .closed ∧ traffic.breaker.failures = 0 ∧ result = .ok ())) ∧
    (traffic.breaker.state = .opened → ∀ call ∈ traffic.outstanding, IsStale origin usages call) ∧
    (traffic.breaker.state = .halfOpen →
      (∀ call ∈ traffic.outstanding,
        (IsStale origin usages call ↔ ¬IsProbe origin usages call) ∧
        (traffic.take (.report call (.ok ()))).breaker.state = .closed ∧
        (traffic.take (.report call (.error ()))).breaker.state = .opened) ∧
      ∀ usage, MayFollow origin usages usage → (traffic.take usage).breaker.state ≠ .halfOpen →
        usage = .reset ∨ ∃ call ∈ traffic.outstanding, ∃ result, usage = .report call result) := by
  intro origin traffic
  refine ⟨?_, ?_, ?_⟩
  · intro call _ _ result
    exact traffic.breaker.report_eq_self_iff traffic.now result
  · intro opened call out
    exact (stale_or_current rfl out).resolve_right fun current => current.1 opened
  · intro halfOpen
    refine ⟨?_, ?_⟩
    · intro call out
      refine ⟨⟨fun stale probe => probe.not_stale orderly stale, fun noProbe => ?_⟩, ?_, ?_⟩
      · exact (stale_or_current rfl out).resolve_right fun current => noProbe (current.2 halfOpen)
      · simp only [take, Breaker.report, Breaker.onSuccess, halfOpen]
        rfl
      · simp only [take, Breaker.report, Breaker.onFailure, halfOpen]
    · intro usage may ends
      rcases ends_of_not_halfOpen halfOpen ends with rfl | ⟨call, result, rfl⟩
      · exact Or.inl rfl
      · exact Or.inr ⟨call, may, result, rfl⟩

/-- The second call fails after the failure of the first one has opened the breaker. -/
theorem stale_failure_ignored :
    let origin := start "node" { failureThreshold := 1 } ⟨0⟩
    let usages := [.ask 1, .ask 2, .report 1 (.error ())]
    2 ∈ (origin.after usages).outstanding ∧ IsStale origin usages 2 ∧
      ((origin.after usages).take (.report 2 (.error ()))).breaker =
        (origin.after usages).breaker := by
  intro origin usages
  have orderly : Orderly origin usages := orderly_beside_slow_call.of_append
  have opened : (origin.after usages).breaker.state = .opened := by decide
  have out : 2 ∈ (origin.after usages).outstanding := by decide
  rcases stale_results_ignored_while_open "node" { failureThreshold := 1 } ⟨0⟩ orderly with
    ⟨ignored, everyone, -⟩
  have stale := everyone opened 2 out
  exact ⟨out, stale, (ignored 2 out stale _).mpr (Or.inl opened)⟩

/-- The second call succeeds when the breaker has rested and the third one probes. This closes the
breaker, though the call was admitted before the breaker opened and is no probe. -/
theorem stale_success_closes :
    let origin := start "node" { failureThreshold := 1 } ⟨0⟩
    let usages := [.ask 1, .ask 2, .report 1 (.error ()), .pass (.ofSeconds 30), .ask 3]
    Orderly origin usages ∧ 2 ∈ (origin.after usages).outstanding ∧ IsStale origin usages 2 ∧
      ¬IsProbe origin usages 2 ∧ (origin.after usages).breaker.state = .halfOpen ∧
      ((origin.after usages).take (.report 2 (.ok ()))).breaker.state = .closed := by
  intro origin usages
  have stale : IsStale origin usages 2 :=
    ⟨[.ask 1], [], .report 1 (.error ()), [.pass (.ofSeconds 30), .ask 3], rfl, by decide⟩
  exact ⟨orderly_beside_slow_call, by decide, stale,
    fun probe => probe.not_stale orderly_beside_slow_call stale, by decide, by decide⟩

end Traffic

end Fleet
