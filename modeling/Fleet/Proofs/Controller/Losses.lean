import Fleet.Proofs.Controller.AlertLog
import Fleet.Proofs.Controller.Endings

/-!
# Alerts about lost containers

A container is lost when its end is reported while it runs and was not asked to stop, or when its
launch fails. A step that takes in such a loss records one alert about it, and no later step records
another, since the container is gone from then on. The exception is a container whose end is
reported while its launch is in flight: its end is remembered, and its launch is discarded, without
an alert.
-/

namespace Fleet

/-- A loss of a container as it is recorded. -/
structure Loss where
  container : String
  reason : String
  time : Nat

namespace Loss

/-- The alert about a loss. -/
def alert (loss : Loss) : Alert := .containerFailure loss.container loss.reason loss.time

/-- What is reported of a loss. -/
def report (loss : Loss) : String × String := (loss.container, loss.reason)

theorem map_container (losses : List Loss) :
    losses.map Loss.container = (losses.map Loss.report).map Prod.fst := by
  rw [List.map_map]
  rfl

end Loss

/-- The container that ended, and why. -/
def Completion.report (completion : Completion) : String × String :=
  (completion.replica, completion.reason)

namespace Controller

variable {World : Type} {surroundings : Surroundings World} {before middle after : Controller}

/-! ## Who serves -/

/-- The running containers that were not asked to stop. -/
def serving (controller : Controller) : List String :=
  (controller.running.filter Replica.isActive).map Replica.id

theorem mem_serving {controller : Controller} {id : String} :
    id ∈ controller.serving ↔
      ∃ replica ∈ controller.running, replica.isActive ∧ replica.id = id := by
  simp only [serving, List.mem_map, List.mem_filter, and_assoc]

theorem running_of_serving {controller : Controller} {id : String}
    (serves : id ∈ controller.serving) : id ∈ controller.running.map Replica.id :=
  (List.filter_sublist.map Replica.id).subset serves

theorem mem_eraseP_id {replicas : List Replica} {id : String} {replica : Replica}
    (distinct : (replicas.map Replica.id).Nodup) :
    replica ∈ replicas.eraseP (·.id = id) ↔ replica ∈ replicas ∧ replica.id ≠ id := by
  induction replicas with
  | nil => simp
  | cons head rest ih =>
      rcases List.nodup_cons.mp distinct with ⟨fresh, others⟩
      by_cases here : head.id = id
      · rw [List.eraseP_cons_of_pos (by simpa using here), List.mem_cons]
        constructor
        · intro member
          refine ⟨Or.inr member, fun same => fresh ?_⟩
          rw [here, ← same]
          exact List.mem_map_of_mem member
        · rintro ⟨rfl | member, different⟩
          · exact absurd here different
          · exact member
      · rw [List.eraseP_cons_of_neg (by simpa using here), List.mem_cons, List.mem_cons, ih others,
          or_and_right]
        have other : replica = head → replica.id ≠ id := by
          rintro rfl
          exact here
        exact or_congr_left (and_iff_left_of_imp other).symm

theorem mem_serving_dropReplica {controller : Controller} {id gone : String}
    (distinct : (controller.running.map Replica.id).Nodup) :
    id ∈ (controller.dropReplica gone).serving ↔ id ∈ controller.serving ∧ id ≠ gone := by
  rw [mem_serving, mem_serving]
  constructor
  · rintro ⟨replica, remaining, active, rfl⟩
    rcases (mem_eraseP_id distinct).mp remaining with ⟨running, other⟩
    exact ⟨⟨replica, running, active, rfl⟩, other⟩
  · rintro ⟨⟨replica, running, active, rfl⟩, other⟩
    exact ⟨replica, (mem_eraseP_id distinct).mpr ⟨running, other⟩, active, rfl⟩

theorem mem_serving_of_find {controller : Controller} {id : String} {replica : Replica}
    (distinct : (controller.running.map Replica.id).Nodup)
    (found : controller.running.find? (·.id = id) = some replica) :
    id ∈ controller.serving ↔ replica.isActive = true := by
  have named : replica.id = id := by simpa using List.find?_some found
  have running := List.mem_of_find?_eq_some found
  rw [mem_serving]
  constructor
  · rintro ⟨other, alsoRunning, active, same⟩
    have one := List.inj_on_of_nodup_map distinct alsoRunning running (same.trans named.symm)
    rwa [← one]
  · intro active
    exact ⟨replica, running, active, named⟩

theorem Requested.serving_eq {limit : Nat} (requested : Requested limit before after) :
    after.serving = before.serving := by
  rw [requested.frame]
  rfl

/-! ## Completions -/

section Completions

variable {completion : Completion} {world : World}

/-- Who serves after a completion served before, and is another one. -/
theorem Ended.mem_serving_iff (ended : Ended surroundings before completion world after)
    (identified : Identified before) (id : String) :
    id ∈ after.serving ↔ id ∈ before.serving ∧ id ≠ completion.replica := by
  have absent (nowhere : completion.replica ∉ before.running.map Replica.id) :
      id ∈ before.serving → id ≠ completion.replica := by
    rintro serves rfl
    exact nowhere (running_of_serving serves)
  cases ended with
  | buried launching =>
      have nowhere := identified.not_running_of_launching
        (SortedMap.contains_iff_mem_keys.mp launching)
      exact (and_iff_left_of_imp (absent nowhere)).symm
  | ignored unknown =>
      have nowhere := isKnown_eq_false_iff.mp unknown
      rw [known, List.mem_append, not_or] at nowhere
      exact (and_iff_left_of_imp (absent nowhere.1)).symm
  | dropped => exact mem_serving_dropReplica identified.distinct_running
  | replaced =>
      rw [(requestMissing_requested ..).serving_eq]
      exact mem_serving_dropReplica identified.distinct_running

/-- A completion is recorded as a loss exactly where its container serves. -/
theorem Ended.logs (ended : Ended surroundings before completion world after)
    (identified : Identified before) :
    ∃ losses : List Loss, Logs (losses.map Loss.alert) before after ∧ losses.map Loss.report =
      if completion.replica ∈ before.serving then [completion.report] else [] := by
  cases ended with
  | buried launching =>
      have nowhere := identified.not_running_of_launching
        (SortedMap.contains_iff_mem_keys.mp launching)
      rw [if_neg (mt running_of_serving nowhere)]
      exact ⟨[], .of_same rfl, rfl⟩
  | ignored unknown =>
      have nowhere := isKnown_eq_false_iff.mp unknown
      rw [known, List.mem_append, not_or] at nowhere
      rw [if_neg (mt running_of_serving nowhere.1)]
      exact ⟨[], .of_same rfl, rfl⟩
  | dropped _ found stopping =>
      have inactive := mem_serving_of_find identified.distinct_running found
      rw [Replica.isActive, stopping] at inactive
      rw [if_neg (by simp [inactive])]
      exact ⟨[], .of_same rfl, rfl⟩
  | replaced _ found active =>
      have serves := mem_serving_of_find identified.distinct_running found
      rw [Replica.isActive, active] at serves
      rw [if_pos (serves.mpr rfl)]
      let loss : Loss := ⟨completion.replica, completion.reason, surroundings.epoch world⟩
      exact ⟨[loss], (Logs.alert (before.dropReplica completion.replica) loss.alert).then_same
        (requestMissing_requested ..).alerts_eq, rfl⟩

/-- Each container that serves is recorded as lost once, at its first completion of the batch. -/
theorem onCompletions_logs (completions : List Completion) (identified : Identified before)
    (world : World) :
    ∃ losses : List Loss, Logs (losses.map Loss.alert) before
        (onCompletions surroundings completions before world).1 ∧
      (∀ report ∈ losses.map Loss.report, report ∈ completions.map Completion.report) ∧
      ∀ id, (losses.map Loss.container).count id =
        if id ∈ completions.map Completion.replica ∧ id ∈ before.serving then 1 else 0 := by
  induction completions generalizing before world with
  | nil => exact ⟨[], .of_same rfl, by simp, by simp⟩
  | cons completion rest ih =>
      have ended := onCompleted_ended surroundings before completion world
      rcases ended.logs identified with ⟨first, logged, reports⟩
      rcases ih (identified.ended ended) (before.onCompleted surroundings completion world).2 with
        ⟨others, loggedLater, reported, counts⟩
      refine ⟨first ++ others, List.map_append ▸ logged.trans loggedLater, ?_, ?_⟩
      · intro report member
        rw [List.map_append, List.mem_append, reports] at member
        rw [List.map_cons, List.mem_cons]
        rcases member with now | later
        · split at now
          · exact Or.inl (List.mem_singleton.mp now)
          · cases now
        · exact Or.inr (reported report later)
      · intro id
        have firstCount : (first.map Loss.container).count id =
            if id = completion.replica ∧ id ∈ before.serving then 1 else 0 := by
          rw [Loss.map_container, reports]
          by_cases serves : completion.replica ∈ before.serving
          · by_cases here : id = completion.replica
            · simp [here, serves, Completion.report]
            · simp [here, Ne.symm here, serves, Completion.report]
          · have nobody : ¬(id = completion.replica ∧ id ∈ before.serving) := by
              rintro ⟨rfl, serving⟩
              exact serves serving
            rw [if_neg serves, if_neg nobody]
            rfl
        rw [List.map_append, List.count_append, firstCount, counts]
        simp only [ended.mem_serving_iff identified, List.map_cons, List.mem_cons]
        by_cases here : id = completion.replica <;> simp [here]

end Completions

/-! ## Steps -/

/-- The failures of containers that a step takes in, with their reasons: reported ends, and a launch
that failed. -/
def Label.failures : Label → List (String × String)
  | .event (.completed completions) => completions.map Completion.report
  | .event (.launchFailed replica reason) => [(failedLaunch replica reason).report]
  | .outcome (.launch replica) (.error failure) =>
      [(replica.id, "launch failed: " ++ failure.message)]
  | _ => []

/-- A step records an alert about a container: one that serves has its end reported, or one whose
end was not reported meanwhile fails to launch. -/
def Alerts (controller : Controller) (label : Label) (id : String) : Prop :=
  id ∈ label.failures.map Prod.fst ∧
    match label with
    | .event _ => id ∈ controller.serving
    | _ => id ∉ controller.tombstones.keys

instance (controller : Controller) (label : Label) (id : String) :
    Decidable (controller.Alerts label id) :=
  match label with
  | .event event =>
      inferInstanceAs (Decidable (id ∈ (Label.event event).failures.map Prod.fst ∧
        id ∈ controller.serving))
  | .outcome work result =>
      inferInstanceAs (Decidable (id ∈ (Label.outcome work result).failures.map Prod.fst ∧
        id ∉ controller.tombstones.keys))
  | .start _ | .tick | .progress => isFalse fun alerts => List.not_mem_nil alerts.1

/-- What a step records besides lost containers, given the targets before and after it: a round
tells of the target, trouble is recorded itself, and other steps record nothing else. -/
inductive Besides (before after : Nat) : Label → List Alert → Prop
  | round {alerts : List Alert} (retargeted : Retargeted before after alerts) :
      Besides before after .tick alerts
  | trouble (reason : String) (time : Nat) :
      Besides before after (.event (.trouble reason)) [⟨"allocator_error", reason, .warning, time⟩]
  | nothing {label : Label} (noRound : label ≠ .tick)
      (noTrouble : ∀ reason, label ≠ .event (.trouble reason)) : Besides before after label []

/-- A step records what it should. The losses are among the failures that it takes in, and each
container that it should tell of is told of once, and no other. The log then holds the last ones of
the alerts that it held, of those about the losses, and of what else the step records. -/
def TellsOf (label : Label) (before after : Controller) : Prop :=
  ∃ (losses : List Loss) (others : List Alert),
    Logs (losses.map Loss.alert ++ others) before after ∧
    Besides before.target after.target label others ∧
    (∀ report ∈ losses.map Loss.report, report ∈ label.failures) ∧
    ∀ id, (losses.map Loss.container).count id = if before.Alerts label id then 1 else 0

theorem Logs.tellsOf {label : Label} {others : List Alert} (logged : Logs others before after)
    (besides : Besides before.target after.target label others)
    (nobody : ∀ id, ¬before.Alerts label id) :
    TellsOf label before after := by
  refine ⟨[], others, logged, besides, by simp, ?_⟩
  intro id
  rw [if_neg (nobody id)]
  rfl

theorem not_alerts_of_no_failures {controller : Controller} {label : Label}
    (none : label.failures = []) (id : String) : ¬controller.Alerts label id := by
  intro alerts
  have failed := alerts.1
  rw [none] at failed
  exact List.not_mem_nil failed

/-- A step that takes in no failure and records nothing. -/
theorem tellsOf_of_same {label : Label} (none : label.failures = [])
    (same : after.aggregator.alerts = before.aggregator.alerts) (noRound : label ≠ .tick)
    (noTrouble : ∀ reason, label ≠ .event (.trouble reason)) : TellsOf label before after :=
  (Logs.of_same same).tellsOf (.nothing noRound noTrouble) (not_alerts_of_no_failures none)

theorem onCompletions_tellsOf {completions : List Completion} {event : ClusterEvent} {world : World}
    (failures : (Label.event event).failures = completions.map Completion.report)
    (noTrouble : ∀ reason, event ≠ .trouble reason) (identified : Identified before)
    (same : after.aggregator.alerts =
      (onCompletions surroundings completions before world).1.aggregator.alerts) :
    TellsOf (.event event) before after := by
  rcases onCompletions_logs completions identified world with ⟨losses, logged, reported, counts⟩
  have names : (Label.event event).failures.map Prod.fst =
      completions.map Completion.replica := by
    rw [failures, List.map_map]
    rfl
  have nothing : Besides before.target after.target (.event event) [] :=
    .nothing (by simp) fun reason => by simpa using noTrouble reason
  refine ⟨losses, [], ?_, nothing, failures ▸ reported, ?_⟩
  · rw [List.append_nil]
    exact logged.then_same same
  · intro id
    rw [counts]
    simp only [Alerts, names]

theorem Landed.tellsOf {replica : Replica} {now : Nat} {result : Except ClusterError Unit}
    (landed : Landed before replica now result after) :
    TellsOf (.outcome (.launch replica) result) before after := by
  have nothing : Besides before.target after.target (.outcome (.launch replica) result) [] :=
    .nothing (by simp) (by simp)
  cases landed with
  | discarded buried =>
      refine Logs.tellsOf (.of_same rfl) nothing ?_
      rintro id ⟨failed, alive⟩
      cases result with
      | ok => exact List.not_mem_nil failed
      | error failure =>
          obtain rfl := List.mem_singleton.mp failed
          exact alive (SortedMap.contains_iff_mem_keys.mp buried)
  | adopted => exact tellsOf_of_same rfl rfl (by simp) (by simp)
  | failed alive failure =>
      let loss : Loss := ⟨replica.id, "launch failed: " ++ failure.message, now⟩
      refine ⟨[loss], [], (Logs.alert { before with
        launching := before.launching.erase replica.id } loss.alert).then_same rfl, nothing,
        fun _ member => member, ?_⟩
      intro id
      have missed := SortedMap.contains_eq_false_iff.mp alive
      by_cases here : id = replica.id
      · subst here
        simp [Alerts, Label.failures, loss, missed]
      · simp [Alerts, Label.failures, loss, here, Ne.symm here]

theorem Finished.tellsOf {work : Work} {now : Nat} {result : Except ClusterError Unit}
    (finished : Finished before now work result after) :
    TellsOf (.outcome work result) before after := by
  cases finished with
  | launched landed => exact landed.tellsOf
  | stopped | released => exact tellsOf_of_same rfl rfl (by simp) (by simp)

theorem Started.alerts_eq {registration : Except ClusterError Registration}
    {answer : Except ClusterError Unit}
    (started : Started surroundings before registration answer after) :
    after.aggregator.alerts = before.aggregator.alerts := by
  cases started with
  | refused => rfl
  | registered => exact (requestMissing_requested ..).alerts_eq.trans (adoptPrevious_alerts ..)

theorem Step.tellsOf {label : Label} (step : Step surroundings label before after)
    (identified : Identified before) : TellsOf label before after := by
  cases step with
  | start world =>
      exact tellsOf_of_same rfl (startUp_started ..).alerts_eq (by simp) (by simp)
  | tick world =>
      rcases tick_logs surroundings before world with ⟨alerts, retargeted, logged⟩
      exact logged.tellsOf (.round retargeted) (not_alerts_of_no_failures rfl)
  | event event world =>
      cases event with
      | allocated allocations =>
          have same := allocated_keeps
            (fun reached => reached.aggregator.alerts = before.aggregator.alerts) allocations
            (fun _ _ _ _ granted same => granted.alerts_eq.trans same) rfl
          exact tellsOf_of_same rfl same (by simp) (by simp)
      | completed completions => exact onCompletions_tellsOf rfl (by simp) identified rfl
      | launchFailed replica reason =>
          exact @onCompletions_tellsOf _ surroundings before _ [failedLaunch replica reason] _ world
            rfl (by simp) identified rfl
      | trouble reason =>
          exact Logs.tellsOf ((Logs.alert before _).then_same rfl)
            (.trouble reason (surroundings.epoch world)) (not_alerts_of_no_failures rfl)
      | resourcesUpdated | shutdownRequested =>
          exact tellsOf_of_same rfl rfl (by simp) (by simp)
  | @outcome _ earlier later work result ready world =>
      have finished := onFinished_finished (before.withFinished (earlier ++ later)) work result
        (surroundings.epoch world)
      exact finished.tellsOf
  | progress => exact tellsOf_of_same rfl rfl (by simp) (by simp)

/-! ## Only once -/

theorem exists_of_outcome_failure {work : Work} {result : Except ClusterError Unit} {id : String}
    (failed : id ∈ (Label.outcome work result).failures.map Prod.fst) :
    ∃ replica failure, work = .launch replica ∧ result = .error failure ∧ replica.id = id := by
  cases work with
  | launch replica =>
      cases result with
      | ok => exact absurd failed List.not_mem_nil
      | error failure => exact ⟨replica, failure, rfl, rfl, (List.mem_singleton.mp failed).symm⟩
  | stop | release => exact absurd failed List.not_mem_nil

/-- A failed launch leaves its container gone. -/
theorem Landed.gone {replica : Replica} {now : Nat} {failure : ClusterError}
    (landed : Landed before replica now (.error failure) after)
    (absent : replica.id ∉ before.running.map Replica.id) : Gone replica.id after := by
  have erased : replica.id ∉ (before.launching.erase replica.id).keys := by
    rw [SortedMap.keys_erase]
    exact before.launching.nodup_keys.not_mem_erase
  cases landed with
  | discarded => exact ⟨absent, fun again => absurd again erased⟩
  | failed => exact ⟨absent, fun again => absurd again erased⟩

/-- A container whose failure is taken in is gone. -/
theorem Step.gone_of_failure {label : Label} {id : String}
    (step : Step surroundings label before after) (identified : Identified before)
    (failed : id ∈ label.failures.map Prod.fst) : Gone id after := by
  cases step with
  | event event world =>
      have reported : id ∈ (Label.event event).completions := by
        cases event with
        | completed completions =>
            rw [Label.failures, List.map_map] at failed
            exact failed
        | launchFailed => exact failed
        | allocated | trouble | resourcesUpdated | shutdownRequested => exact failed
      exact Step.gone (.event event world) identified reported
  | @outcome _ earlier later work result ready world =>
      rcases exists_of_outcome_failure failed with ⟨replica, failure, rfl, rfl, rfl⟩
      have launching := (identified.take_launch ready).1
      exact (onLaunched_landed (before.withFinished (earlier ++ later)) replica
        (.error failure) _).gone (identified.not_running_of_launching launching)
  | start | tick | progress => exact absurd failed List.not_mem_nil

/-- No step tells of a gone container. -/
theorem Gone.not_alerts {label : Label} {id : String} (gone : Gone id before)
    (identified : Identified before) (step : Step surroundings label before after) :
    ¬before.Alerts label id := by
  rintro ⟨failed, told⟩
  cases step with
  | event event world => exact gone.absent (running_of_serving told)
  | outcome ready world =>
      rcases exists_of_outcome_failure failed with ⟨replica, failure, rfl, rfl, rfl⟩
      exact told (gone.buried (identified.take_launch ready).1)
  | start | tick | progress => exact List.not_mem_nil failed

/-- A replica that was asked to stop is no loss. -/
theorem Identified.not_alerts_of_stopping {label : Label} {replica : Replica}
    (identified : Identified before) (step : Step surroundings label before after)
    (running : replica ∈ before.running) (stopping : replica.isStopping = true) :
    ¬before.Alerts label replica.id := by
  have present : replica.id ∈ before.running.map Replica.id := List.mem_map_of_mem running
  rintro ⟨failed, told⟩
  cases step with
  | event event world =>
      rcases mem_serving.mp told with ⟨other, alsoRunning, active, same⟩
      have one := List.inj_on_of_nodup_map identified.distinct_running alsoRunning running same
      rw [one, Replica.isActive, stopping] at active
      cases active
  | outcome ready world =>
      rcases exists_of_outcome_failure failed with ⟨launched, failure, rfl, rfl, same⟩
      have launching := (identified.take_launch ready).1
      rw [same] at launching
      exact identified.not_running_of_launching launching present
  | start | tick | progress => exact List.not_mem_nil failed

/-- A lost container is alerted about once. In every run, a step records one alert about each
container that served and whose end it takes in, or whose launch it finds to have failed, and no
other alert about a failure; and no later step alerts about any container whose failure was taken
in, unless it is granted again. There is no alert about a replica that is being stopped. Nor is
there one about a container whose end is reported while it is being launched, then or later. -/
theorem loss_alerted_once {labels : List Label} {label : Label}
    (run : Run surroundings labels before) (step : Step surroundings label before after) :
    TellsOf label before after ∧
      (∀ id ∈ label.failures.map Prod.fst, ∀ more middle next last,
        Course surroundings after more middle → id ∉ grants more →
          Step surroundings next middle last → ¬middle.Alerts next id) ∧
      (∀ replica ∈ before.running, replica.isStopping = true → ¬before.Alerts label replica.id) ∧
      ∀ id ∈ before.launching.keys, ∀ event, label = .event event → ¬before.Alerts label id := by
  have identified := run.identified
  refine ⟨step.tellsOf identified, ?_, ?_, ?_⟩
  · intro id failed more middle next last course others stepLater
    have reached := run.step step
    have gone := course.gone reached (step.gone_of_failure identified failed) others
    exact gone.not_alerts (reached.extend course).identified stepLater
  · intro replica running stopping
    exact identified.not_alerts_of_stopping step running stopping
  · rintro id launching event rfl ⟨-, serves⟩
    exact identified.not_running_of_launching launching (running_of_serving serves)

/-- A replica that runs is lost, and the log tells of it. -/
theorem running_loss_alerted :
    ∃ before after, Run (standstill []) (launchStarts ++ launchSucceeds) before ∧
      Step (standstill []) completionComes before after ∧
      before.Alerts completionComes "first" ∧
      after.aggregator.alerts.items =
        [.containerFailure "first" (Completion.reason ⟨"first", .failed, none, ""⟩) 0] ∧
      TellsOf completionComes before after := by
  have launched := run_launchingFirst.step (@Step.progress _ _ _ [] []
    ⟨.launch (bareAllocation "first").toReplica, some 0, .unstarted⟩ rfl ())
  have run := launched.step (@Step.outcome _ _ _ [] []
    (.launch (bareAllocation "first").toReplica) (.ok ()) rfl ())
  refine ⟨_, _, run, .event (.completed [⟨"first", .failed, none, ""⟩]) (), by decide, by decide,
    ?_⟩
  exact (loss_alerted_once run (.event (.completed [⟨"first", .failed, none, ""⟩]) ())).1

/-- A container completes while it is being launched, and is gone after the result of its launch.
No alert tells of it. -/
theorem loss_during_launch_unalerted :
    launchingFirst.launching.contains "first" = true ∧
      ∃ controller,
        Run (standstill []) (launchStarts ++ completionComes :: launchSucceeds) controller ∧
          controller.known = [] ∧ controller.aggregator.alerts.items = [] := by
  have buried := run_launchingFirst.step (.event (.completed [⟨"first", .failed, none, ""⟩]) ())
  have launched := buried.step (@Step.progress _ _ _ [] []
    ⟨.launch (bareAllocation "first").toReplica, some 0, .unstarted⟩ rfl ())
  have run := launched.step (@Step.outcome _ _ _ [] []
    (.launch (bareAllocation "first").toReplica) (.ok ()) rfl ())
  exact ⟨by decide, _, run, by decide, by decide⟩

end Controller

end Fleet
