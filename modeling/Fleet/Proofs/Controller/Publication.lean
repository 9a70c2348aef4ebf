import Fleet.Proofs.Controller.Identity

/-!
# The published view

Readers see the view that was published last. Every start that registers, every round, every event
and every result of background work ends with a new view, with one exception: a launched replica
that completed meanwhile is discarded without one. From then on the view counts a launch too many,
one for each such replica, until the next view is published. In all else that the controller keeps
for its readers the view is never stale.
-/

namespace Fleet.Controller

variable {World : Type} {surroundings : Surroundings World} {before after : Controller}
  {lag : Nat}

/-- What readers see of the controller is as it is now, save that it counts `lag` launches more than
are in flight. -/
structure ViewLags (lag : Nat) (controller : Controller) : Prop where
  target : controller.handle.status.target = controller.target
  running : controller.handle.status.running = controller.running
  pending : controller.handle.status.pending = controller.pending.length
  launching : controller.handle.status.launching = controller.launching.entries.length + lag
  load : controller.handle.status.load = controller.load
  available : controller.handle.status.available = controller.available

theorem viewLags_publish (controller : Controller) : ViewLags 0 controller.publish :=
  ⟨rfl, rfl, rfl, rfl, rfl, rfl⟩

namespace ViewLags

theorem eq_of_lags {other : Nat} (lags : ViewLags lag before) (alike : ViewLags other before) :
    lag = other := by
  have counted := lags.launching.symm.trans alike.launching
  omega

theorem withBackground (lags : ViewLags lag before) (background : Background) (broken : Bool) :
    ViewLags lag { before with background := background, isBroken := broken } :=
  ⟨lags.target, lags.running, lags.pending, lags.launching, lags.load, lags.available⟩

/-- A launch that is over and not shown makes the view count one more than before. -/
theorem discarded {replica : Replica} {tombstones : NameSet} (lags : ViewLags lag before)
    (launching : replica.id ∈ before.launching.keys) :
    ViewLags (lag + 1)
      { before with
        launching := before.launching.erase replica.id
        tombstones := tombstones } := by
  have fewer := SortedMap.length_erase launching
  refine ⟨lags.target, lags.running, lags.pending, ?_, lags.load, lags.available⟩
  calc
    before.handle.status.launching
      = before.launching.entries.length + lag := lags.launching
    _ = (before.launching.erase replica.id).entries.length + (lag + 1) := by omega

end ViewLags

/-- Whether a step changes what the view shows. A start that failed does not, and neither does a job
that goes on. -/
def Label.isShown : Label → Bool
  | start (.error _) | progress => false
  | start (.ok _) | tick | event _ | outcome _ _ => true

/-- A step takes the result of a launch whose container completed meanwhile. -/
def Discards (controller : Controller) : Label → Prop
  | .outcome (.launch replica) _ => replica.id ∈ controller.tombstones.keys
  | _ => False

/-! ## Steps -/

theorem onFinished_viewLags (controller : Controller) {work : Work}
    {result : Except ClusterError Unit} (now : Nat)
    (kept : ¬Discards controller (.outcome work result)) :
    ViewLags 0 (controller.onFinished work result now) := by
  cases work with
  | launch replica =>
      have landed := onLaunched_landed controller replica result now
      change ViewLags 0 (controller.onLaunched replica result now)
      generalize controller.onLaunched replica result now = after at landed ⊢
      cases landed with
      | discarded buried => exact absurd (SortedMap.contains_iff_mem_keys.mp buried) kept
      | adopted => exact viewLags_publish _
      | failed => exact viewLags_publish _
  | stop replica =>
      cases result with
      | ok => exact viewLags_publish _
      | error failure => exact viewLags_publish _
  | release id =>
      simp only [onFinished, onReleased]
      split <;> exact viewLags_publish _

theorem Step.started {registration : Except ClusterError Registration}
    (step : Step surroundings (.start registration) before after) :
    ∃ answer, Started surroundings before registration answer after := by
  cases step with
  | start world => exact ⟨_, startUp_started surroundings before world⟩

/-- After what changes the view, the view is as the controller, unless a replica was discarded. -/
theorem Step.viewLags_of_shown {label : Label} (step : Step surroundings label before after)
    (shown : label.isShown = true) (kept : ¬Discards before label) : ViewLags 0 after := by
  cases label with
  | start registration =>
      rcases step.started with ⟨answer, started⟩
      cases started with
      | refused => cases shown
      | registered => exact viewLags_publish _
  | tick =>
      cases step with
      | tick world =>
          rcases tick_acted surroundings before world with ⟨acted, ticked, -⟩
          rw [ticked]
          exact viewLags_publish acted
  | event event =>
      cases step with
      | event _ world => exact viewLags_publish _
  | outcome work result =>
      cases step with
      | outcome ready world => exact onFinished_viewLags _ _ kept
  | progress => cases shown

/-- The replica that is discarded is one whose launch was in flight. -/
theorem Step.viewLags_of_discards {label : Label} (step : Step surroundings label before after)
    (identified : Identified before) (discards : Discards before label) :
    before.launching.keys ≠ [] ∧ ∀ lag, ViewLags lag before → ViewLags (lag + 1) after := by
  cases step with
  | @outcome _ earlier later work result ready world =>
      cases work with
      | launch replica =>
          have launching := (identified.take_launch ready).1
          refine ⟨List.ne_nil_of_mem launching, ?_⟩
          intro lag lags
          have waiting : ViewLags lag (before.withFinished (earlier ++ later)) :=
            lags.withBackground _ before.isBroken
          have buried : (before.withFinished (earlier ++ later)).tombstones.contains replica.id =
              true := SortedMap.contains_iff_mem_keys.mpr discards
          simp only [onFinished, onLaunched]
          rw [if_pos buried]
          exact waiting.discarded launching
      | stop | release => exact discards.elim
  | start | tick | event | progress => exact discards.elim

theorem Step.frame_of_hidden {label : Label} (step : Step surroundings label before after)
    (hidden : label.isShown = false) :
    ∃ background broken,
      after = { before with background := background, isBroken := broken } := by
  cases label with
  | start registration =>
      rcases step.started with ⟨answer, started⟩
      cases started with
      | refused => exact ⟨_, _, rfl⟩
      | registered => cases hidden
  | tick | event | outcome => cases hidden
  | progress =>
      cases step with
      | progress flying world => exact ⟨_, before.isBroken, rfl⟩

theorem Step.viewLags_iff_of_hidden {label : Label} (step : Step surroundings label before after)
    (hidden : label.isShown = false) : ViewLags lag after ↔ ViewLags lag before := by
  rcases step.frame_of_hidden hidden with ⟨background, broken, rfl⟩
  constructor
  · intro lags
    exact lags.withBackground before.background before.isBroken
  · intro lags
    exact lags.withBackground background broken

/-! ## Runs -/

/-- Before the first view is published no launch is in flight. After it, the view may lag. -/
theorem Run.viewLags {labels : List Label} {controller : Controller}
    (run : Run surroundings labels controller) :
    controller.launching.keys = [] ∨ ∃ lag, ViewLags lag controller := by
  induction run with
  | initial settings => exact Or.inl rfl
  | @step labels label before after run step ih =>
      by_cases shown : label.isShown = true
      · right
        by_cases discards : Discards before label
        · rcases step.viewLags_of_discards run.identified discards with ⟨launching, succ⟩
          rcases ih.resolve_left launching with ⟨lag, lags⟩
          exact ⟨lag + 1, succ lag lags⟩
        · exact ⟨0, step.viewLags_of_shown shown discards⟩
      · rw [Bool.not_eq_true] at shown
        rcases ih with nobody | ⟨lag, lags⟩
        · rcases step.frame_of_hidden shown with ⟨background, broken, rfl⟩
          exact Or.inl nobody
        · exact Or.inr ⟨lag, (step.viewLags_iff_of_hidden shown).mpr lags⟩

/-- The view that readers see is stale only after replicas were discarded. In every run, a start
that registers, a round, an event or a result of background work leaves the view as the controller
is, in all but the breakers, exactly where it does not discard a replica that completed during its
launch. Discarding one leaves a view that counts too many launches, and is right in all else. A
start that fails and a job that goes on leave the view as right or as stale as it was. -/
theorem view_current_iff {labels : List Label} {label : Label}
    (run : Run surroundings labels before) (step : Step surroundings label before after) :
    (label.isShown = true →
      (ViewLags 0 after ↔ ¬Discards before label) ∧ ∃ lag, ViewLags lag after) ∧
    (label.isShown = false → ∀ lag, ViewLags lag after ↔ ViewLags lag before) := by
  refine ⟨?_, fun hidden lag => step.viewLags_iff_of_hidden hidden⟩
  intro shown
  by_cases discards : Discards before label
  · rcases step.viewLags_of_discards run.identified discards with ⟨launching, succ⟩
    rcases run.viewLags.resolve_left launching with ⟨lag, lags⟩
    have stale := succ lag lags
    refine ⟨⟨?_, fun kept => absurd discards kept⟩, lag + 1, stale⟩
    intro current
    exact absurd (current.eq_of_lags stale) (by omega)
  · have current := step.viewLags_of_shown shown discards
    exact ⟨⟨fun _ => discards, fun _ => current⟩, 0, current⟩

/-- The result of a launch is taken, and the view is as the controller is then. -/
theorem view_after_launch :
    ∃ before after,
      Run (standstill []) (launchStarts ++ [.progress]) before ∧
        Step (standstill [])
          (.outcome (.launch (bareAllocation "first").toReplica) (.ok ())) before after ∧
        ViewLags 0 after := by
  have run := run_launchingFirst.step (@Step.progress _ _ _ [] []
    ⟨.launch (bareAllocation "first").toReplica, some 0, .unstarted⟩ rfl ())
  have viewed := (view_current_iff run (@Step.outcome _ _ _ [] []
    (.launch (bareAllocation "first").toReplica) (.ok ()) rfl ())).1 rfl
  exact ⟨_, _, run, @Step.outcome _ _ _ [] [] _ _ rfl (), viewed.1.mpr List.not_mem_nil⟩

/-- A container completes while its launch is in flight. When the result of the launch is taken, no
launch is in flight any more, and readers see one. -/
theorem stale_view_after_discard :
    ∃ before after,
      Run (standstill []) (launchStarts ++ [completionComes] ++ [.progress]) before ∧
        Step (standstill [])
          (.outcome (.launch (bareAllocation "first").toReplica) (.ok ())) before after ∧
        after.launching.entries.length = 0 ∧ after.handle.status.launching = 1 := by
  have buried := run_launchingFirst.step (.event (.completed [⟨"first", .failed, none, ""⟩]) ())
  have run := buried.step (@Step.progress _ _ _ [] []
    ⟨.launch (bareAllocation "first").toReplica, some 0, .unstarted⟩ rfl ())
  refine ⟨_, _, run, @Step.outcome _ _ _ [] [] _ _ rfl (), ?_, ?_⟩
  · decide +kernel
  · decide +kernel

end Fleet.Controller
