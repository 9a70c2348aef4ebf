import Fleet.Proofs.Breaker
import Mathlib.Data.List.Induction

/-!
# Breakers in shared use

Several callers use one breaker at once. Each call asks it first and reports its result later if it
was admitted; meanwhile others ask and report, time passes, and the breaker may be reset.

Time alone does not end the half-open state. What ends it is a report, of any call that is out: so
the call that made the breaker half open has not reported for as long as the breaker is half open,
however many probes and late reports there are beside it. A breaker from which no call is out is
closed or open, then, and an open one admits the next call after its rest.
-/

namespace Fleet

/-- What can happen to a breaker in use. Calls are told apart by numbers. -/
inductive Usage where
  | ask (call : Nat)
  | report (call : Nat) (result : Except Unit Unit)
  | reset
  | pass (duration : Duration)
  deriving DecidableEq

/-- A breaker in use, with the time. -/
structure Traffic where
  breaker : Breaker
  now : Instant
  /-- The calls that were admitted and have not reported, the latest first. -/
  outstanding : List Nat := []

namespace Traffic

/-- A breaker that nobody has used yet. -/
def start (name : String) (settings : BreakerSettings) (now : Instant) : Traffic where
  breaker := .fresh name settings
  now := now

/-- The traffic after something happened. -/
def take (traffic : Traffic) : Usage → Traffic
  | .ask call =>
      let (admitted, breaker) := traffic.breaker.allow traffic.now
      { traffic with
        breaker
        outstanding := if admitted then call :: traffic.outstanding else traffic.outstanding }
  | .report call result =>
      { traffic with
        breaker := traffic.breaker.report traffic.now result
        outstanding := traffic.outstanding.erase call }
  | .reset => { traffic with breaker := traffic.breaker.reset }
  | .pass duration => { traffic with now := traffic.now.after duration }

/-- The traffic after several things happened, in their order. -/
def after (traffic : Traffic) (usages : List Usage) : Traffic := usages.foldl take traffic

/-- What may follow earlier usages: a call asks once, and reports when it is out. -/
def MayFollow (origin : Traffic) (earlier : List Usage) : Usage → Prop
  | .ask call => .ask call ∉ earlier
  | .report call _ => call ∈ (origin.after earlier).outstanding
  | .reset | .pass _ => True

instance (origin : Traffic) (earlier : List Usage) :
    (usage : Usage) → Decidable (MayFollow origin earlier usage)
  | .ask call => inferInstanceAs (Decidable (.ask call ∉ earlier))
  | .report call _ => inferInstanceAs (Decidable (call ∈ (origin.after earlier).outstanding))
  | .reset | .pass _ => inferInstanceAs (Decidable True)

/-- In this order every call asks once at most, and reports once at most, after it was admitted. -/
def Orderly (origin : Traffic) (usages : List Usage) : Prop :=
  ∀ earlier usage later, usages = earlier ++ usage :: later → MayFollow origin earlier usage

/-- A call made the breaker half open, and the breaker has been half open ever since. -/
def IsProber (origin : Traffic) (usages : List Usage) (call : Nat) : Prop :=
  ∃ earlier later, usages = earlier ++ .ask call :: later ∧
    (origin.after earlier).breaker.state = .opened ∧
    ∀ middle, middle <+: later →
      (origin.after (earlier ++ .ask call :: middle)).breaker.state = .halfOpen

section Orders

variable {origin : Traffic} {usages : List Usage} {call : Nat}

theorem after_concat (usages : List Usage) (usage : Usage) :
    origin.after (usages ++ [usage]) = (origin.after usages).take usage :=
  List.foldl_concat ..

theorem after_append (origin : Traffic) (usages more : List Usage) :
    origin.after (usages ++ more) = (origin.after usages).after more :=
  List.foldl_append ..

/-- What is so wherever a history is cut, and at its end, is so wherever the longer one is cut. -/
theorem forall_cut_concat {Holds : List Usage → Usage → Prop} {last : Usage}
    (cuts : ∀ earlier usage later, usages = earlier ++ usage :: later → Holds earlier usage)
    (ends : Holds usages last) {earlier later : List Usage} {usage : Usage}
    (split : usages ++ [last] = earlier ++ usage :: later) : Holds earlier usage := by
  rcases List.eq_nil_or_concat later with rfl | ⟨rest, other, rfl⟩
  · obtain ⟨rfl, same⟩ := List.append_inj' split rfl
    obtain rfl := List.singleton_inj.mp same
    exact ends
  · rw [List.concat_eq_append, ← List.cons_append, ← List.append_assoc] at split
    obtain ⟨rfl, -⟩ := List.append_inj' split rfl
    exact cuts earlier usage rest rfl

theorem orderly_nil : Orderly origin [] := by
  intro earlier usage later split
  simp at split

theorem Orderly.of_append {later : List Usage} (orderly : Orderly origin (usages ++ later)) :
    Orderly origin usages := by
  rintro earlier usage rest rfl
  exact orderly earlier usage (rest ++ later) (by simp)

theorem Orderly.concat {usage : Usage} (orderly : Orderly origin usages)
    (may : MayFollow origin usages usage) : Orderly origin (usages ++ [usage]) :=
  fun _ _ _ split => forall_cut_concat orderly may split

/-! ## Who is out -/

/-- Who is out has asked. -/
theorem asked_of_outstanding (out : call ∈ (origin.after usages).outstanding)
    (unused : origin.outstanding = []) : .ask call ∈ usages := by
  induction usages using List.reverseRecOn with
  | nil =>
      change call ∈ origin.outstanding at out
      rw [unused] at out
      cases out
  | append_singleton usages usage ih =>
      rw [after_concat] at out
      rw [List.mem_append, List.mem_singleton]
      cases usage with
      | ask other =>
          simp only [take] at out
          split at out
          · rcases List.mem_cons.mp out with rfl | earlier
            · exact Or.inr rfl
            · exact Or.inl (ih earlier)
          · exact Or.inl (ih out)
      | report other result => exact Or.inl (ih (List.mem_of_mem_erase out))
      | reset => exact Or.inl (ih out)
      | pass duration => exact Or.inl (ih out)

/-- Who has reported had asked before. -/
theorem Orderly.asked_of_reported {result : Except Unit Unit} (orderly : Orderly origin usages)
    (unused : origin.outstanding = []) (reported : .report call result ∈ usages) :
    .ask call ∈ usages := by
  rcases List.append_of_mem reported with ⟨earlier, later, rfl⟩
  have out := orderly earlier (.report call result) later rfl
  exact List.mem_append_left _ (asked_of_outstanding out unused)

/-! ## The call that made the breaker half open -/

theorem lasting_nil
    (halfOpen : (origin.after (usages ++ [.ask call])).breaker.state = .halfOpen) :
    ∀ middle, middle <+: [] →
      (origin.after (usages ++ .ask call :: middle)).breaker.state = .halfOpen := by
  intro middle within
  rw [List.prefix_nil.mp within]
  exact halfOpen

theorem lasting_concat {earlier later : List Usage} {usage : Usage}
    (lasting : ∀ middle, middle <+: later →
      (origin.after (earlier ++ .ask call :: middle)).breaker.state = .halfOpen)
    (halfOpen : (origin.after (earlier ++ .ask call :: later ++ [usage])).breaker.state =
      .halfOpen) :
    ∀ middle, middle <+: later ++ [usage] →
      (origin.after (earlier ++ .ask call :: middle)).breaker.state = .halfOpen := by
  intro middle within
  rcases List.prefix_concat_iff.mp within with rfl | shorter
  · simpa using halfOpen
  · exact lasting middle shorter

theorem IsProber.concat {usage : Usage} (prober : IsProber origin usages call)
    (halfOpen : (origin.after (usages ++ [usage])).breaker.state = .halfOpen) :
    IsProber origin (usages ++ [usage]) call := by
  rcases prober with ⟨earlier, later, rfl, opened, lasting⟩
  exact ⟨earlier, later ++ [usage], by simp, opened, lasting_concat lasting halfOpen⟩

/-- A breaker that is half open was made so by some call, and has been so ever since. -/
theorem exists_prober (unopened : origin.breaker.state = .closed)
    (halfOpen : (origin.after usages).breaker.state = .halfOpen) :
    ∃ call, IsProber origin usages call := by
  induction usages using List.reverseRecOn with
  | nil =>
      change origin.breaker.state = .halfOpen at halfOpen
      rw [unopened] at halfOpen
      cases halfOpen
  | append_singleton usages usage ih =>
      have extend (already : (origin.after usages).breaker.state = .halfOpen) :
          ∃ call, IsProber origin (usages ++ [usage]) call := by
        rcases ih already with ⟨call, prober⟩
        exact ⟨call, prober.concat halfOpen⟩
      have made := halfOpen
      rw [after_concat] at made
      cases usage with
      | ask call =>
          rcases Breaker.halfOpen_of_allow made with already | ⟨opened, -⟩
          · exact extend already
          · exact ⟨call, usages, [], rfl, opened, lasting_nil halfOpen⟩
      | report call result => exact absurd made (Breaker.report_state_ne_halfOpen _ _ result)
      | reset => cases made
      | pass duration => exact extend made

/-- While the breaker is half open, the call that made it so is out: it was admitted, and the first
report of any call would have ended the state. -/
theorem IsProber.outstanding (prober : IsProber origin usages call)
    (orderly : Orderly origin usages) (unused : origin.outstanding = []) :
    call ∈ (origin.after usages).outstanding ∧ ∀ result, .report call result ∉ usages := by
  rcases prober with ⟨earlier, later, rfl, opened, lasting⟩
  induction later using List.reverseRecOn with
  | nil =>
      have halfOpen := lasting [] List.prefix_rfl
      rw [after_concat] at halfOpen ⊢
      rcases Breaker.halfOpen_of_allow halfOpen with already | ⟨-, admitted⟩
      · rw [opened] at already
        cases already
      · refine ⟨?_, ?_⟩
        · simp only [take, admitted, if_true]
          exact List.mem_cons_self
        · intro result reported
          have asked := orderly earlier (.ask call) [] rfl
          rw [List.mem_append, List.mem_singleton] at reported
          rcases reported with before | impossible
          · exact asked (orderly.of_append.asked_of_reported unused before)
          · cases impossible
  | append_singleton rest usage ih =>
      have joined : earlier ++ .ask call :: (rest ++ [usage]) =
          (earlier ++ .ask call :: rest) ++ [usage] := by simp
      have halfOpen := lasting (rest ++ [usage]) List.prefix_rfl
      rw [joined] at orderly halfOpen ⊢
      rw [after_concat] at halfOpen ⊢
      rcases ih orderly.of_append fun middle within =>
        lasting middle (within.trans (List.prefix_append ..)) with ⟨out, silent⟩
      have stillSilent (quiet : ∀ result, usage ≠ .report call result) :
          ∀ result, .report call result ∉ (earlier ++ .ask call :: rest) ++ [usage] := by
        intro result reported
        rcases List.mem_append.mp reported with before | now
        · exact silent result before
        · exact quiet result (List.mem_singleton.mp now).symm
      cases usage with
      | ask other =>
          refine ⟨?_, stillSilent (by simp)⟩
          simp only [take]
          split
          · exact List.mem_cons_of_mem _ out
          · exact out
      | report other result => exact absurd halfOpen (Breaker.report_state_ne_halfOpen _ _ result)
      | reset => cases halfOpen
      | pass duration => exact ⟨out, stillSilent (by simp)⟩

/-! ## Rest -/

theorem settings_after (origin : Traffic) (usages : List Usage) :
    (origin.after usages).breaker.settings = origin.breaker.settings := by
  induction usages using List.reverseRecOn with
  | nil => rfl
  | append_singleton usages usage ih =>
      rw [after_concat, ← ih]
      cases usage with
      | ask call => exact Breaker.allow_settings ..
      | report call result => exact Breaker.report_settings ..
      | reset => rfl
      | pass duration => rfl

theorem threshold_after (origin : Traffic) (usages : List Usage) :
    (origin.after usages).breaker.threshold = origin.breaker.threshold := by
  rw [Breaker.threshold, settings_after, Breaker.threshold]

theorem probeLimit_after (origin : Traffic) (usages : List Usage) :
    (origin.after usages).breaker.probeLimit = origin.breaker.probeLimit := by
  rw [Breaker.probeLimit, settings_after, Breaker.probeLimit]

theorem isDated_after (dated : origin.breaker.IsDated) (usages : List Usage) :
    (origin.after usages).breaker.IsDated := by
  induction usages using List.reverseRecOn with
  | nil => exact dated
  | append_singleton usages usage ih =>
      rw [after_concat]
      cases usage with
      | ask call => exact ih.allow _
      | report call result => exact ih.report _ result
      | reset => exact Or.inl rfl
      | pass duration => exact ih

end Orders

/-- A breaker cannot be wedged. However callers share a fresh one, the call that made it half open
is out for as long as it is half open. So a breaker from which no call is out is closed or open, and
an open one admits whoever asks next, once its rest is over. -/
theorem never_wedged (name : String) (settings : BreakerSettings) (beginning : Instant)
    {usages : List Usage} (orderly : Orderly (start name settings beginning) usages) :
    let traffic := (start name settings beginning).after usages
    (traffic.breaker.state = .halfOpen →
      ∃ call, IsProber (start name settings beginning) usages call) ∧
    (∀ call, IsProber (start name settings beginning) usages call →
      call ∈ traffic.outstanding ∧ ∀ result, .report call result ∉ usages) ∧
    (traffic.outstanding = [] →
      traffic.breaker.state = .closed ∨ traffic.breaker.state = .opened) ∧
    (traffic.breaker.state = .opened → ∃ opened, traffic.breaker.openedAt = some opened ∧
      ∀ now, opened.after settings.resetTimeout ≤ now → (traffic.breaker.allow now).1 = true) := by
  have probed {call : Nat} (prober : IsProber (start name settings beginning) usages call) :=
    prober.outstanding orderly rfl
  refine ⟨exists_prober rfl, fun call prober => probed prober, ?_, ?_⟩
  · intro idle
    cases state : ((start name settings beginning).after usages).breaker.state with
    | closed => exact Or.inl rfl
    | opened => exact Or.inr rfl
    | halfOpen =>
        rcases exists_prober rfl state with ⟨call, prober⟩
        have out := (probed prober).1
        rw [idle] at out
        cases out
  · intro opened
    have dated : ((start name settings beginning).after usages).breaker.IsDated :=
      isDated_after (Or.inl rfl) usages
    rcases Option.isSome_iff_exists.mp (dated.resolve_left (by simp [opened])) with ⟨since, date⟩
    refine ⟨since, date, ?_⟩
    intro now rested
    apply Breaker.allow_of_rested opened date
    rw [settings_after]
    exact rested

/-- The second of three calls is slow: the breaker opens and rests while it is out. The third one
probes. -/
theorem orderly_beside_slow_call :
    Orderly (start "node" { failureThreshold := 1 } ⟨0⟩)
      [.ask 1, .ask 2, .report 1 (.error ()), .pass (.ofSeconds 30), .ask 3] := by
  have asked : Orderly (start "node" { failureThreshold := 1 } ⟨0⟩) ([] ++ [.ask 1] ++ [.ask 2]) :=
    (orderly_nil.concat (by decide)).concat (by decide)
  have failed : Orderly _ (_ ++ [.report 1 (.error ())]) := asked.concat (by decide)
  have rested : Orderly _ (_ ++ [.pass (.ofSeconds 30)]) := failed.concat (by decide)
  exact rested.concat (by decide)

/-- The third call probes while the slow one is out, too. -/
theorem never_wedged_beside_slow_call :
    let origin := start "node" { failureThreshold := 1 } ⟨0⟩
    let usages := [.ask 1, .ask 2, .report 1 (.error ()), .pass (.ofSeconds 30), .ask 3]
    Orderly origin usages ∧ (origin.after usages).outstanding = [3, 2] ∧
      (∃ call, IsProber origin usages call) ∧
      ∀ call, IsProber origin usages call → call ∈ (origin.after usages).outstanding := by
  intro origin usages
  rcases never_wedged "node" { failureThreshold := 1 } ⟨0⟩ orderly_beside_slow_call with
    ⟨probed, out, -, -⟩
  exact ⟨orderly_beside_slow_call, by decide, probed (by decide),
    fun call prober => (out call prober).1⟩

end Traffic

end Fleet
