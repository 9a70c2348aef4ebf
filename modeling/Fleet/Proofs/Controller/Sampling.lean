import Fleet.Controller.Sampling
import Fleet.Proofs.Breaker
import Mathlib.Data.List.Basic

/-!
# What sampling changes

Probing the running set can make a replica ready that was neither ready nor asked to stop. It
changes nothing else of the set, and no breaker but those of the replicas in it.

No probe looks at what the samples before changed. So sampling comes to the same as probing all
replicas first and then recording the samples, each with the time at which it was there.
-/

namespace Fleet.Controller

variable {World : Type}

/-- Changing the first chosen replica relates each replica to itself, save the chosen one. -/
theorem forall₂_changeFirst {relation : Replica → Replica → Prop}
    (reflexive : ∀ replica, relation replica replica) {chosen : Replica → Bool}
    {change : Replica → Replica} {replicas : List Replica}
    (changed : ∀ replica, replicas.find? chosen = some replica →
      relation replica (change replica)) :
    List.Forall₂ relation replicas (changeFirst chosen change replicas) := by
  induction replicas with
  | nil => exact .nil
  | cons replica rest ih =>
      simp only [changeFirst]
      by_cases here : chosen replica
      · rw [if_pos here]
        exact .cons (changed replica (List.find?_cons_of_pos here))
          (List.forall₂_same.mpr fun other _ => reflexive other)
      · rw [if_neg here]
        refine .cons (reflexive replica) (ih fun other found => changed other ?_)
        rw [List.find?_cons_of_neg here, found]

/-- What probing can do to a replica. -/
def Readied (before after : Replica) : Prop :=
  after = before ∨
    before.isReady = false ∧ before.isStopping = false ∧
      ∃ now, after = { before with phase := .ready, readyAt := some now }

namespace Readied

variable {before after : Replica}

theorem id_eq (readied : Readied before after) : after.id = before.id := by
  rcases readied with rfl | ⟨-, -, now, rfl⟩ <;> rfl

theorem isStopping_eq (readied : Readied before after) :
    after.isStopping = before.isStopping := by
  rcases readied with rfl | ⟨-, notStopping, now, rfl⟩
  · rfl
  · rw [notStopping]
    rfl

theorem isActive_eq (readied : Readied before after) : after.isActive = before.isActive :=
  congrArg (! ·) readied.isStopping_eq

protected theorem trans {middle : Replica} (first : Readied before middle)
    (second : Readied middle after) : Readied before after := by
  rcases first with rfl | ⟨notReady, notStopping, now, rfl⟩
  · exact second
  · rcases second with rfl | ⟨notReadyYet, -⟩
    · exact Or.inr ⟨notReady, notStopping, now, rfl⟩
    · simp [Replica.isReady] at notReadyYet

end Readied

theorem forall₂_readied_refl (replicas : List Replica) :
    List.Forall₂ Readied replicas replicas :=
  List.forall₂_same.mpr fun _ _ => Or.inl rfl

theorem forall₂_readied_trans {before middle after : List Replica}
    (first : List.Forall₂ Readied before middle) (second : List.Forall₂ Readied middle after) :
    List.Forall₂ Readied before after := by
  induction first generalizing after with
  | nil => exact second
  | cons step _ ih =>
      rcases List.forall₂_cons_left_iff.mp second with ⟨last, rest, lastStep, restSteps, rfl⟩
      exact .cons (step.trans lastStep) (ih restSteps)

theorem map_eq_of_forall₂_readied {Value : Type} {read : Replica → Value}
    (kept : ∀ {before after}, Readied before after → read after = read before)
    {before after : List Replica} (readied : List.Forall₂ Readied before after) :
    after.map read = before.map read := by
  induction readied with
  | nil => rfl
  | cons step _ ih => rw [List.map_cons, List.map_cons, kept step, ih]

/-- Probing makes no other replica the first one that is not being stopped. -/
theorem find?_of_forall₂_readied {before after : List Replica} {first : Replica}
    (readied : List.Forall₂ Readied before after)
    (found : after.find? Replica.isActive = some first) :
    ∃ oldest, before.find? Replica.isActive = some oldest ∧ Readied oldest first := by
  induction readied with
  | nil => cases found
  | @cons replica probed rest others step _ ih =>
      by_cases active : replica.isActive
      · rw [List.find?_cons_of_pos (step.isActive_eq.trans active)] at found
        obtain rfl := Option.some.inj found
        exact ⟨replica, List.find?_cons_of_pos active, step⟩
      · have inactive : ¬probed.isActive := step.isActive_eq ▸ active
        rw [List.find?_cons_of_neg inactive] at found
        rcases ih found with ⟨oldest, first, kept⟩
        exact ⟨oldest, (List.find?_cons_of_neg active).trans first, kept⟩

theorem markReady_frame (controller : Controller) (id : String) (now : Nat) :
    controller.markReady id now =
      { controller with
        running := (controller.markReady id now).running
        aggregator := (controller.markReady id now).aggregator } := by
  simp only [markReady]
  split
  · rfl
  · split <;> rfl

theorem markReady_running (controller : Controller) (id : String) (now : Nat) :
    List.Forall₂ Readied controller.running (controller.markReady id now).running := by
  simp only [markReady]
  split
  · exact forall₂_readied_refl _
  · next replica found =>
      split
      · exact forall₂_readied_refl _
      · next eligible =>
          simp only [Bool.or_eq_true, not_or, Bool.not_eq_true] at eligible
          apply forall₂_changeFirst fun other => Or.inl rfl
          intro other first
          obtain rfl : replica = other := Option.some.inj (found.symm.trans first)
          exact Or.inr ⟨eligible.1, eligible.2, now, rfl⟩

theorem recordSample_frame (controller : Controller) (now : Nat) (sample : Sample) :
    (controller.recordSample now sample).1 =
      { controller with
        running := (controller.recordSample now sample).1.running
        aggregator := (controller.recordSample now sample).1.aggregator } := by
  simp only [recordSample]
  by_cases ready : sample.ready
  · simp only [ready, if_true]
    rw [markReady_frame controller sample.replica now]
    split <;> rfl
  · simp only [ready, if_false, Bool.false_eq_true]
    split <;> rfl

theorem recordSample_running (controller : Controller) (now : Nat) (sample : Sample) :
    List.Forall₂ Readied controller.running
      (controller.recordSample now sample).1.running := by
  have running : (controller.recordSample now sample).1.running =
      (if sample.ready then controller.markReady sample.replica now else controller).running := by
    simp only [recordSample]
    cases sample.metrics <;> rfl
  rw [running]
  split
  · exact markReady_running ..
  · exact forall₂_readied_refl _

/-- Recording a sample neither reads nor changes what runs in the background. -/
theorem recordSample_background (controller : Controller) (now : Nat) (sample : Sample)
    (background : Background) :
    { controller with background }.recordSample now sample =
      ({ (controller.recordSample now sample).1 with background },
        (controller.recordSample now sample).2) := by
  have marked : { controller with background }.markReady sample.replica now =
      { controller.markReady sample.replica now with background } := by
    simp only [markReady]
    split
    · rfl
    · split <;> rfl
  simp only [recordSample, marked]
  cases sample.ready <;> cases sample.metrics <;> rfl

/-! ## Probing and recording -/

/-- Probes replicas one after the other. The answer holds the samples, each with the time of day at
which it was there. -/
def probeAll (surroundings : Surroundings World) :
    List Replica → BreakerRegistry → World → List (Nat × Sample) × BreakerRegistry × World
  | [], breakers, world => ([], breakers, world)
  | replica :: rest, breakers, world =>
      let (sample, breakers, world) := probe surroundings replica breakers world
      let (samples, breakers, later) := probeAll surroundings rest breakers world
      ((surroundings.epoch world, sample) :: samples, breakers, later)

/-- The controller after samples were recorded, and their loads. -/
def recordSamples : Controller → List (Nat × Sample) → Controller × List Binary64
  | controller, [] => (controller, [])
  | controller, (now, sample) :: rest =>
      let (controller, load) := controller.recordSample now sample
      let (controller, loads) := recordSamples controller rest
      (controller, load :: loads)

theorem recordSamples_frame (samples : List (Nat × Sample)) (controller : Controller) :
    (recordSamples controller samples).1 =
      { controller with
        running := (recordSamples controller samples).1.running
        aggregator := (recordSamples controller samples).1.aggregator } := by
  induction samples generalizing controller with
  | nil => rfl
  | cons timed rest ih =>
      rcases timed with ⟨now, sample⟩
      simp only [recordSamples]
      rw [ih, recordSample_frame controller now sample]

theorem recordSamples_running (samples : List (Nat × Sample)) (controller : Controller) :
    List.Forall₂ Readied controller.running (recordSamples controller samples).1.running := by
  induction samples generalizing controller with
  | nil => exact forall₂_readied_refl _
  | cons timed rest ih =>
      exact forall₂_readied_trans (recordSample_running controller timed.1 timed.2) (ih _)

theorem sampleInTurn_eq (surroundings : Surroundings World) (replicas : List Replica)
    (controller : Controller) (world : World) :
    sampleInTurn surroundings replicas controller world =
      let background := controller.background
      let probed := probeAll surroundings replicas background.breakers world
      let recorded := recordSamples
        { controller with background := { background with breakers := probed.2.1 } } probed.1
      (recorded.2, recorded.1, probed.2.2) := by
  induction replicas generalizing controller world with
  | nil => rfl
  | cons replica rest ih =>
      simp only [sampleInTurn, ih, probeAll, recordSamples, recordSample_background]

/-- Sampling comes to probing the replicas that are not being stopped, and recording what was
found. -/
theorem sampleReplicas_eq (surroundings : Surroundings World) (controller : Controller)
    (world : World) :
    controller.sampleReplicas surroundings world =
      let background := controller.background
      let probed := probeAll surroundings (controller.running.filter Replica.isActive)
        background.breakers world
      let recorded := recordSamples
        { controller with background := { background with breakers := probed.2.1 } } probed.1
      (recorded.2, recorded.1, probed.2.2) :=
  sampleInTurn_eq ..

theorem probeAll_breaker (surroundings : Surroundings World) (replicas : List Replica)
    (breakers : BreakerRegistry) (world : World) {key : String}
    (other : key ∉ replicas.map Replica.id) :
    (probeAll surroundings replicas breakers world).2.1.breaker key = breakers.breaker key := by
  induction replicas generalizing breakers world with
  | nil => rfl
  | cons replica rest ih =>
      simp only [List.map_cons, List.mem_cons, not_or] at other
      simp only [probeAll]
      rw [ih _ _ other.2]
      exact BreakerRegistry.breaker_put_of_ne _ _ other.1

/-- How sampling changes a controller, and deciding on a target after it. -/
structure Sampled (before after : Controller) : Prop where
  frame : after =
    { before with
      load := after.load
      decider := after.decider
      running := after.running
      aggregator := after.aggregator
      background := { before.background with breakers := after.background.breakers } }
  running : List.Forall₂ Readied before.running after.running
  breaker : ∀ key, key ∉ before.running.map Replica.id →
    after.background.breakers.breaker key = before.background.breakers.breaker key

theorem sampleReplicas_sampled (surroundings : Surroundings World) (controller : Controller)
    (world : World) :
    Sampled controller (controller.sampleReplicas surroundings world).2.1 := by
  constructor
  · simp only [sampleReplicas_eq]
    rw [recordSamples_frame]
  · have recorded (samples : List (Nat × Sample)) (probed : Controller)
        (same : probed.running = controller.running) :
        List.Forall₂ Readied controller.running (recordSamples probed samples).1.running :=
      same ▸ recordSamples_running samples probed
    rw [sampleReplicas_eq]
    exact recorded _ _ rfl
  · intro key other
    simp only [sampleReplicas_eq]
    rw [recordSamples_frame]
    apply probeAll_breaker
    intro member
    rcases List.mem_map.mp member with ⟨replica, active, rfl⟩
    exact other (List.mem_map_of_mem (List.mem_of_mem_filter active))

end Fleet.Controller
