import Fleet.Proofs.Breaker.Traffic

/-!
# Whom an open breaker admits

A breaker that opens refuses everyone for its reset timeout, whatever is reported or asked
meanwhile. The first call that asks after that is admitted and makes the breaker half open. Until a
result is reported, as many calls are admitted as the quota of probes says, that first one among
them, and they are the first ones that ask.

The argument follows the breaker through the rest and through the episode. While it rests, nothing
that happens changes it; while it is half open, only questions do, and each raises the number of
probes by one until the quota is reached.
-/

namespace Fleet

/-- Whether something is the question of a call. -/
def Usage.isAsk : Usage → Bool
  | ask _ => true
  | _ => false

namespace Breaker

variable {breaker : Breaker} {opened now : Instant}

/-- An open breaker that has not rested refuses a call and stays as it is. -/
theorem allow_of_resting (state : breaker.state = .opened) (date : breaker.openedAt = some opened)
    (since : opened ≤ now) (early : now < opened.after breaker.settings.resetTimeout) :
    breaker.allow now = (false, breaker) := by
  have tired : ¬breaker.hasRested now = true := by
    simp only [hasRested, date, decide_eq_true_eq]
    intro enough
    exact Nat.not_le.mpr early (Nat.add_le_of_le_sub' since enough)
  simp only [allow, state, if_neg tired]

theorem allow_of_opened (state : breaker.state = .opened)
    (admits : (breaker.allow now).1 = true) :
    (breaker.allow now).2.state = .halfOpen ∧ (breaker.allow now).2.probes = 1 := by
  simp only [allow, state] at admits ⊢
  split at admits
  · next rested =>
      rw [if_pos rested]
      exact ⟨rfl, rfl⟩
  · cases admits

theorem allow_of_halfOpen_iff (halfOpen : breaker.state = .halfOpen) (now : Instant) :
    (breaker.allow now).1 = true ↔ breaker.probes < breaker.probeLimit := by
  simp only [allow, halfOpen]
  split
  · next remaining => exact iff_of_true rfl remaining
  · next exhausted => exact iff_of_false Bool.false_ne_true exhausted

/-- A half-open breaker that is asked counts the call while its quota is not used up. -/
theorem allow_of_halfOpen (halfOpen : breaker.state = .halfOpen)
    (within : breaker.probes ≤ breaker.probeLimit) (now : Instant) :
    (breaker.allow now).2.state = .halfOpen ∧
      (breaker.allow now).2.probes = min breaker.probeLimit (breaker.probes + 1) := by
  simp only [allow, halfOpen]
  split
  · next remaining => exact ⟨rfl, (min_eq_right remaining).symm⟩
  · next exhausted =>
      have full := le_antisymm within (Nat.not_lt.mp exhausted)
      exact ⟨halfOpen, full.trans (min_eq_left (full.symm.trans_le (Nat.le_succ _))).symm⟩

theorem openedAt_onFailure (unopened : breaker.state ≠ .opened)
    (opens : (breaker.onFailure now).state = .opened) :
    (breaker.onFailure now).openedAt = some now := by
  simp only [onFailure] at opens ⊢
  cases state : breaker.state with
  | closed =>
      simp only [state] at opens ⊢
      split at opens
      · next reached => rw [if_pos reached]
      · simp at opens
  | opened => exact absurd state unopened
  | halfOpen => rfl

end Breaker

namespace Traffic

/-- A call that asks now is admitted. -/
def Admits (traffic : Traffic) : Prop := (traffic.breaker.allow traffic.now).1 = true

instance (traffic : Traffic) : Decidable traffic.Admits :=
  inferInstanceAs (Decidable (_ = true))

/-- The breaker opens with something that happens. -/
def Opens (traffic : Traffic) (usage : Usage) : Prop :=
  traffic.breaker.state ≠ .opened ∧ (traffic.take usage).breaker.state = .opened

instance (traffic : Traffic) (usage : Usage) : Decidable (traffic.Opens usage) :=
  inferInstanceAs (Decidable (_ ∧ _))

/-- Whoever asks does so before an instant. -/
def AsksBefore (traffic : Traffic) (instant : Instant) (usages : List Usage) : Prop :=
  ∀ earlier usage later, usages = earlier ++ usage :: later → usage.isAsk = true →
    (traffic.after earlier).now < instant

variable {origin traffic : Traffic} {usages : List Usage} {usage : Usage} {opened : Instant}

/-! ## Openings -/

/-- A breaker opens with the report of a failure, and remembers the time. -/
theorem Opens.dated (opens : traffic.Opens usage) :
    (traffic.take usage).breaker.openedAt = some (traffic.take usage).now := by
  rcases opens with ⟨unopened, opens⟩
  cases usage with
  | ask call =>
      simp only [take, Breaker.allow] at opens
      cases state : traffic.breaker.state with
      | opened => exact absurd state unopened
      | closed => simp [state] at opens
      | halfOpen =>
          simp only [state] at opens
          split at opens <;> simp [state] at opens
  | report call result =>
      cases result with
      | ok =>
          simp only [take, Breaker.report, Breaker.onSuccess] at opens
          cases state : traffic.breaker.state with
          | opened => exact absurd state unopened
          | closed | halfOpen => simp [state, Breaker.reset] at opens
      | error => exact Breaker.openedAt_onFailure unopened opens
  | reset => cases opens
  | pass duration => exact absurd opens unopened

/-! ## Time -/

theorem now_le_take (traffic : Traffic) (usage : Usage) :
    traffic.now ≤ (traffic.take usage).now := by
  cases usage with
  | ask | report | reset => exact Nat.le_refl _
  | pass duration => exact Nat.le_add_right ..

theorem now_le_after (origin : Traffic) (usages : List Usage) :
    origin.now ≤ (origin.after usages).now := by
  induction usages using List.reverseRecOn with
  | nil => exact Nat.le_refl _
  | append_singleton usages usage ih =>
      rw [after_concat]
      exact Nat.le_trans ih (now_le_take ..)

theorem asksBefore_of_now_lt {instant : Instant} (early : (origin.after usages).now < instant) :
    origin.AsksBefore instant usages := by
  rintro earlier usage later rfl -
  rw [after_append] at early
  exact Nat.lt_of_le_of_lt (now_le_after ..) early

theorem AsksBefore.of_append {instant : Instant} {more : List Usage}
    (asks : origin.AsksBefore instant (usages ++ more)) : origin.AsksBefore instant usages := by
  rintro earlier usage later rfl asked
  exact asks earlier usage (later ++ more) (by simp) asked

theorem AsksBefore.concat {instant : Instant} (asks : origin.AsksBefore instant usages)
    (early : usage.isAsk = true → (origin.after usages).now < instant) :
    origin.AsksBefore instant (usages ++ [usage]) :=
  fun _ _ _ split => forall_cut_concat asks early split

/-! ## The rest -/

/-- Nothing changes a breaker while it rests, and nothing after that before somebody asks. -/
theorem after_resting (state : origin.breaker.state = .opened)
    (date : origin.breaker.openedAt = some opened) (since : opened ≤ origin.now)
    (unreset : .reset ∉ usages)
    (asks : origin.AsksBefore (opened.after origin.breaker.settings.resetTimeout) usages) :
    (origin.after usages).breaker = origin.breaker := by
  induction usages using List.reverseRecOn with
  | nil => rfl
  | append_singleton usages usage ih =>
      rw [List.mem_append, not_or] at unreset
      have same := ih unreset.1 asks.of_append
      rw [after_concat]
      cases usage with
      | ask call =>
          have early := asks usages (.ask call) [] rfl rfl
          have refused := Breaker.allow_of_resting state date
            (Nat.le_trans since (now_le_after origin usages)) early
          simp only [take, same, refused]
      | report call result =>
          simp only [take, same]
          cases result <;> simp only [Breaker.report, Breaker.onSuccess, Breaker.onFailure, state]
      | reset => exact absurd (List.mem_singleton_self _) unreset.2
      | pass duration => exact same

/-! ## The episode -/

/-- While a breaker is half open and no result comes, it counts who asks, up to the quota. -/
theorem after_probing (halfOpen : origin.breaker.state = .halfOpen)
    (within : origin.breaker.probes ≤ origin.breaker.probeLimit) (unreset : .reset ∉ usages)
    (unreported : ∀ call result, .report call result ∉ usages) :
    (origin.after usages).breaker.state = .halfOpen ∧
      (origin.after usages).breaker.probes =
        min origin.breaker.probeLimit (origin.breaker.probes + usages.countP Usage.isAsk) := by
  induction usages using List.reverseRecOn with
  | nil => exact ⟨halfOpen, (min_eq_right within).symm⟩
  | append_singleton usages usage ih =>
      simp only [List.mem_append, not_or] at unreset unreported
      rcases ih unreset.1 fun call result => (unreported call result).1 with ⟨state, probes⟩
      rw [after_concat, List.countP_append]
      cases usage with
      | ask call =>
          have limit := probeLimit_after origin usages
          -- The quota is never exceeded, so that the count stops at it.
          have bounded : (origin.after usages).breaker.probes ≤
              (origin.after usages).breaker.probeLimit := by
            rw [probes, limit]
            exact min_le_left ..
          rcases Breaker.allow_of_halfOpen state bounded (origin.after usages).now with
            ⟨still, counted⟩
          refine ⟨still, counted.trans ?_⟩
          rw [probes, limit, List.countP_singleton]
          simp only [Usage.isAsk, if_true]
          omega
      | report call result =>
          exact absurd (List.mem_singleton_self _) (unreported call result).2
      | reset => exact absurd (List.mem_singleton_self _) unreset.2
      | pass duration => exact ⟨state, probes⟩

/-- In the episode that a call starts, the next one is admitted if fewer than the quota have asked
before it. -/
theorem admits_in_episode_iff (state : traffic.breaker.state = .opened) (admits : traffic.Admits)
    (call : Nat) (unreset : .reset ∉ usages)
    (unreported : ∀ other result, .report other result ∉ usages) :
    (traffic.after (.ask call :: usages)).breaker.state = .halfOpen ∧
      ((traffic.after (.ask call :: usages)).Admits ↔
        (.ask call :: usages).countP Usage.isAsk < traffic.breaker.probeLimit) := by
  have first : (traffic.take (.ask call)).breaker.state = .halfOpen ∧
      (traffic.take (.ask call)).breaker.probes = 1 := Breaker.allow_of_opened state admits
  have limit : (traffic.take (.ask call)).breaker.probeLimit = traffic.breaker.probeLimit :=
    probeLimit_after traffic [.ask call]
  have within : (traffic.take (.ask call)).breaker.probes ≤
      (traffic.take (.ask call)).breaker.probeLimit :=
    first.2.trans_le (Nat.le_max_right ..)
  rcases after_probing first.1 within unreset unreported with ⟨halfOpen, probes⟩
  rw [first.2, limit] at probes
  refine ⟨halfOpen, (Breaker.allow_of_halfOpen_iff halfOpen _).trans ?_⟩
  have asked : (.ask call :: usages).countP Usage.isAsk = usages.countP Usage.isAsk + 1 :=
    List.countP_cons_of_pos rfl
  rw [probeLimit_after, limit, probes, asked]
  omega

/-- The law of admission. After a breaker opened, and as long as nobody resets it, no call is
admitted before the reset timeout has passed, whatever else happens. Whoever asks first after that
is admitted and starts a half-open episode. Until a result is reported, exactly as many calls are
admitted in it as the quota says, the first ones that ask. -/
theorem admission_after_opening (name : String) (settings : BreakerSettings)
    (beginning : Instant) {earlier waiting : List Usage} {opening : Usage}
    (opens : ((start name settings beginning).after earlier).Opens opening)
    (unreset : .reset ∉ waiting) :
    let opened := ((start name settings beginning).after earlier).take opening
    let rested := opened.now.after settings.resetTimeout
    ((opened.after waiting).now < rested → ¬(opened.after waiting).Admits) ∧
    (opened.AsksBefore rested waiting → rested ≤ (opened.after waiting).now →
      (opened.after waiting).Admits ∧
      ∀ call episode, .reset ∉ episode → (∀ other result, .report other result ∉ episode) →
        let probing := opened.after (waiting ++ .ask call :: episode)
        probing.breaker.state = .halfOpen ∧
          (probing.Admits ↔
            (.ask call :: episode).countP Usage.isAsk < max settings.halfOpenProbes 1)) := by
  intro opened rested
  have same : opened.breaker.settings = settings := by
    have joined := settings_after (start name settings beginning) (earlier ++ [opening])
    rwa [after_concat] at joined
  have state : opened.breaker.state = .opened := opens.2
  have date : opened.breaker.openedAt = some opened.now := opens.dated
  have timeout : opened.now.after opened.breaker.settings.resetTimeout = rested := by
    rw [same]
  have resting (asks : opened.AsksBefore rested waiting) :
      (opened.after waiting).breaker = opened.breaker :=
    after_resting state date (Nat.le_refl _) unreset (timeout ▸ asks)
  refine ⟨?_, ?_⟩
  · intro early admits
    have refused := Breaker.allow_of_resting state date (now_le_after opened waiting)
      (timeout ▸ early)
    rw [Admits, resting (asksBefore_of_now_lt early), refused] at admits
    cases admits
  · intro asks late
    have admits : (opened.after waiting).Admits := by
      rw [Admits, resting asks]
      exact Breaker.allow_of_rested state date (timeout ▸ late)
    refine ⟨admits, ?_⟩
    intro call episode unresetLater unreported
    have quota : (opened.after waiting).breaker.probeLimit = max settings.halfOpenProbes 1 := by
      rw [resting asks, Breaker.probeLimit, same]
    rw [after_append, ← quota]
    exact admits_in_episode_iff (by rw [resting asks]; exact state) admits call unresetLater
      unreported

/-- The breaker of a node admits two probes. Of the calls that ask after its first failure, the one
that asks at once is refused; half a minute later two are admitted, and a third one is not. -/
theorem two_probes_admitted :
    let origin := start "node" { failureThreshold := 1, halfOpenProbes := 2 } ⟨0⟩
    let opened := (origin.after [.ask 1]).take (.report 1 (.error ()))
    let waiting := [.ask 2, .pass (.ofSeconds 30)]
    ¬opened.Admits ∧ (opened.after waiting).Admits ∧
      (opened.after (waiting ++ [.ask 3])).Admits ∧
      ¬(opened.after (waiting ++ [.ask 3, .ask 4])).Admits := by
  intro origin opened waiting
  have opens : (origin.after [.ask 1]).Opens (.report 1 (.error ())) := by decide
  have law (waiting : List Usage) (unreset : .reset ∉ waiting) :=
    admission_after_opening "node" { failureThreshold := 1, halfOpenProbes := 2 } ⟨0⟩ opens unreset
  have asked : opened.AsksBefore (opened.now.after (.ofSeconds 30)) [.ask 2] :=
    asksBefore_of_now_lt (by decide)
  rcases (law waiting (by decide)).2 (asked.concat (by simp [Usage.isAsk])) (by decide) with
    ⟨first, episode⟩
  refine ⟨(law [] (by decide)).1 (by decide), first, ?_, ?_⟩
  · exact (episode 3 [] (by decide) (by simp)).2.mpr (by decide)
  · exact fun third => absurd ((episode 3 [.ask 4] (by decide) (by simp)).2.mp third) (by decide)

end Traffic

end Fleet
