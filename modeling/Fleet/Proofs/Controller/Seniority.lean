import Fleet.Proofs.Controller.Identity

/-!
# The order of the running set

The running replicas stand in the order in which they came to run. A step takes those out of it
whose end it reports, keeps the others in their order, and puts new ones behind them. Nothing else
takes a replica out: neither a round nor the result of a stop.
-/

namespace Fleet.Controller

variable {World : Type} {surroundings : Surroundings World} {before after : Controller}

/-! ## Who goes and who comes -/

/-- Those of some containers whose end is not reported, in their order. -/
def survivors (ids ended : List String) : List String := ids.filter (· ∉ ended)

/-- Those of some containers that the controller does not know, each one once. -/
def newcomers (controller : Controller) (ids : List String) : List String :=
  (ids.filter (· ∉ controller.known)).eraseDups

/-- The containers that come to run with a step, in their order: those that are left from an earlier
attempt, or the one whose launch has succeeded, unless its end was reported meanwhile. -/
def arrivals (controller : Controller) : Label → List String
  | .start (.ok registration) => controller.newcomers (registration.previous.map Allocation.replica)
  | .outcome (.launch replica) (.ok ()) =>
      if controller.tombstones.contains replica.id then [] else [replica.id]
  | _ => []

@[simp]
theorem survivors_nil (ids : List String) : survivors ids [] = ids := by
  simp [survivors]

theorem survivors_append (ids more ended : List String) :
    survivors (ids ++ more) ended = survivors ids ended ++ survivors more ended :=
  List.filter_append ids more

theorem survivors_survivors (ids ended later : List String) :
    survivors (survivors ids ended) later = survivors ids (ended ++ later) := by
  rw [survivors, survivors, List.filter_filter]
  apply List.filter_congr
  intro id _
  rw [← Bool.decide_and, decide_eq_decide, List.mem_append, not_or, and_comm]

theorem survivors_singleton {ids : List String} (distinct : ids.Nodup) (id : String) :
    survivors ids [id] = ids.erase id := by
  rw [distinct.erase_eq_filter]
  apply List.filter_congr
  intro other _
  simp only [List.mem_singleton, decide_not]
  rfl

theorem newcomers_cons_of_known {controller : Controller} {id : String} {rest : List String}
    (known : id ∈ controller.known) :
    controller.newcomers (id :: rest) = controller.newcomers rest := by
  rw [newcomers, List.filter_cons_of_neg (by simpa using known), newcomers]

/-- A newcomer is known from then on. -/
theorem newcomers_cons_of_unknown {controller : Controller} {allocation : Allocation}
    {rest : List String} (unknown : allocation.replica ∉ controller.known) (now : Nat) :
    controller.newcomers (allocation.replica :: rest) =
      allocation.replica :: (controller.adopt allocation.toReplica now).newcomers rest := by
  have adopted (id : String) : id ∈ (controller.adopt allocation.toReplica now).known ↔
      id = allocation.replica ∨ id ∈ controller.known :=
    (controller.known_adopt_perm allocation.toReplica now).mem_iff.trans List.mem_cons
  rw [newcomers, List.filter_cons_of_pos (by simpa using unknown), List.eraseDups_cons,
    List.filter_filter, newcomers]
  congr 2
  apply List.filter_congr
  intro id _
  simp [adopted, beq_eq_decide]

theorem running_adoptPrevious (previous : List Allocation) (now : Nat) (controller : Controller) :
    (controller.adoptPrevious previous now).running.map Replica.id =
      controller.running.map Replica.id ++
        controller.newcomers (previous.map Allocation.replica) := by
  induction previous generalizing controller with
  | nil => exact (List.append_nil _).symm
  | cons allocation rest ih =>
      by_cases known : controller.isKnown allocation.replica
      · rw [List.map_cons, newcomers_cons_of_known (isKnown_iff.mp known), ← ih controller]
        simp only [adoptPrevious, List.foldl_cons, known, if_true]
      · rw [Bool.not_eq_true] at known
        have adopted := ih (controller.adopt allocation.toReplica now)
        rw [List.map_cons, newcomers_cons_of_unknown (isKnown_eq_false_iff.mp known) now]
        simp only [adoptPrevious, List.foldl_cons, known, Bool.false_eq_true, if_false]
          at adopted ⊢
        rw [adopted, adopt, List.map_append, List.append_assoc]
        rfl

/-! ## What steps do to the order -/

theorem Started.running_eq {registration : Except ClusterError Registration}
    {answer : Except ClusterError Unit}
    (started : Started surroundings before registration answer after) :
    after.running.map Replica.id =
      before.running.map Replica.id ++ before.arrivals (.start registration) := by
  cases started with
  | refused => exact (List.append_nil _).symm
  | @registered background evolved registration now target world =>
      have adopted := running_adoptPrevious registration.previous now
        { before with background := background, available := registration.available }
      simp only [publish]
      rw [(requestMissing_requested ..).sameRoster.ids, adopted]
      rfl

theorem Granted.running_eq {allocation : Allocation} (granted : Granted before allocation after) :
    after.running = before.running := by
  cases granted <;> rfl

theorem Ended.running_eq {completion : Completion} {world : World}
    (ended : Ended surroundings before completion world after) (identified : Identified before) :
    after.running.map Replica.id =
      survivors (before.running.map Replica.id) [completion.replica] := by
  rw [survivors_singleton identified.distinct_running]
  cases ended with
  | buried launching =>
      have absent := identified.not_running_of_launching
        (SortedMap.contains_iff_mem_keys.mp launching)
      exact (List.erase_of_not_mem absent).symm
  | ignored unknown =>
      have nowhere := isKnown_eq_false_iff.mp unknown
      exact (List.erase_of_not_mem fun running => nowhere (List.mem_append_left _ running)).symm
  | dropped => exact map_eraseP_id before.running completion.replica
  | replaced =>
      rw [(requestMissing_alert_sameRoster ..).ids]
      exact map_eraseP_id before.running completion.replica

theorem running_onCompletions (completions : List Completion) {controller : Controller}
    (identified : Identified controller) (world : World) :
    (onCompletions surroundings completions controller world).1.running.map Replica.id =
      survivors (controller.running.map Replica.id) (completions.map Completion.replica) := by
  induction completions generalizing controller world with
  | nil => exact (survivors_nil _).symm
  | cons completion rest ih =>
      have ended := onCompleted_ended surroundings controller completion world
      simp only [onCompletions]
      rw [ih (identified.ended ended), ended.running_eq identified, survivors_survivors]
      rfl

theorem Landed.running_eq {replica : Replica} {now : Nat} {result : Except ClusterError Unit}
    (landed : Landed before replica now result after) :
    after.running.map Replica.id =
      before.running.map Replica.id ++ before.arrivals (.outcome (.launch replica) result) := by
  cases landed with
  | discarded buried => cases result <;> simp [arrivals, buried]
  | adopted alive => simp [publish, adopt, arrivals, alive]
  | failed => simp only [publish, start, alert, arrivals, List.append_nil]

theorem Finished.running_eq {work : Work} {now : Nat} {result : Except ClusterError Unit}
    (finished : Finished before now work result after) :
    after.running.map Replica.id =
      before.running.map Replica.id ++ before.arrivals (.outcome work result) := by
  cases finished with
  | launched landed => exact landed.running_eq
  | stopped _ _ ids => exact ids.trans (List.append_nil _).symm
  | released => exact (List.append_nil _).symm

/-- A step takes out of the running set whose end it reports, and puts those behind it who come to
run. -/
theorem Step.running_eq {label : Label} (step : Step surroundings label before after)
    (identified : Identified before) :
    after.running.map Replica.id =
      survivors (before.running.map Replica.id) label.completions ++ before.arrivals label := by
  cases step with
  | start world =>
      simp only [Label.completions, survivors_nil]
      exact (startUp_started surroundings before world).running_eq
  | tick world =>
      simp only [Label.completions, survivors_nil, arrivals, List.append_nil]
      exact (tick_ticked surroundings before world).ids
  | event event world =>
      simp only [arrivals, List.append_nil]
      cases event with
      | allocated allocations =>
          have same := allocated_keeps (fun reached => reached.running = before.running)
            allocations (fun _ _ _ _ granted same => granted.running_eq.trans same) rfl
          simp only [Label.completions, survivors_nil]
          exact congrArg (List.map Replica.id) same
      | completed completions => exact running_onCompletions completions identified world
      | launchFailed replica reason =>
          exact (onCompleted_ended surroundings before (failedLaunch replica reason)
            world).running_eq identified
      | trouble | resourcesUpdated | shutdownRequested => exact (survivors_nil _).symm
  | @outcome _ earlier later work result ready world =>
      simp only [Label.completions, survivors_nil]
      exact (onFinished_finished (before.withFinished (earlier ++ later)) work result
        (surroundings.epoch world)).running_eq
  | progress flying world =>
      simp only [Label.completions, survivors_nil, arrivals, List.append_nil]

/-- Whoever runs and has no end reported keeps the place among the others, ahead of all who come to
run later. -/
theorem Course.running_eq {earlier later : List Label}
    (course : Course surroundings before later after) (run : Run surroundings earlier before) :
    ∃ joined, after.running.map Replica.id =
      survivors (before.running.map Replica.id) (completions later) ++ joined := by
  induction course with
  | stay => exact ⟨[], by simp [completions]⟩
  | @step labels label middle after course step ih =>
      rcases ih with ⟨joined, held⟩
      refine ⟨survivors joined label.completions ++ middle.arrivals label, ?_⟩
      rw [step.running_eq (run.extend course).identified, held, survivors_append,
        survivors_survivors, completions_append, completions_singleton, List.append_assoc]

/-- Whoever runs once runs on until the end is reported. -/
theorem Course.running_or_ended {earlier later : List Label} {id : String}
    (course : Course surroundings before later after) (run : Run surroundings earlier before)
    (running : id ∈ before.running.map Replica.id) :
    id ∈ after.running.map Replica.id ∨ id ∈ completions later := by
  rcases course.running_eq run with ⟨joined, order⟩
  by_cases ended : id ∈ completions later
  · exact Or.inr ended
  · left
    rw [order]
    exact List.mem_append_left _ (List.mem_filter.mpr ⟨running, by simpa using ended⟩)

end Fleet.Controller
