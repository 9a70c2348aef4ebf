import Fleet.Proofs.Controller.Identity
import Fleet.Proofs.Recent

/-!
# What steps record in the log

The log holds the last alerts. After a step it holds the last ones of those that it held before and
of those that the step recorded, in this order. A round records a change of the target, and nothing
where the target stays.
-/

namespace Fleet

namespace Telemetry.Aggregator

theorem ingest_alerts (aggregator : Aggregator) (replica host text : String) :
    (aggregator.ingest replica host text).1.alerts = aggregator.alerts := by
  simp only [ingest]
  apply List.foldlRecOn (motive := fun reached : Aggregator => reached.alerts = aggregator.alerts)
  · rfl
  · intro reached same growth _
    exact same

end Telemetry.Aggregator

namespace Controller

variable {World : Type} {surroundings : Surroundings World} {before middle after : Controller}

/-! ## Alerts after alerts -/

/-- The log after some alerts were recorded: it holds the last ones of those that it held and of
these. -/
def Logs (alerts : List Alert) (before after : Controller) : Prop :=
  after.aggregator.alerts.items =
    (before.aggregator.alerts.items ++ alerts).rtake alertCapacity

namespace Logs

theorem of_same (same : after.aggregator.alerts = before.aggregator.alerts) :
    Logs [] before after := by
  rw [Logs, same, List.append_nil, Recent.rtake_items]

theorem alert (controller : Controller) (alert : Alert) :
    Logs [alert] controller (controller.alert alert) :=
  controller.aggregator.alerts.items_push alert

protected theorem trans {early late : List Alert} (first : Logs early before middle)
    (second : Logs late middle after) : Logs (early ++ late) before after := by
  rw [Logs, second, first, Recent.rtake_append_rtake, List.append_assoc]

/-- What follows without an alert changes nothing about what was recorded. -/
theorem then_same {alerts : List Alert} (first : Logs alerts before middle)
    (same : after.aggregator.alerts = middle.aggregator.alerts) : Logs alerts before after := by
  rw [Logs, same]
  exact first

/-- What was recorded last stands at the end. -/
theorem getLast?_items {alerts : List Alert} {alert : Alert}
    (logged : Logs (alerts ++ [alert]) before after) :
    after.aggregator.alerts.items.getLast? = some alert := by
  rw [logged, ← List.append_assoc]
  exact Recent.getLast?_rtake_concat (by decide) _ alert

end Logs

/-! ## What records nothing -/

theorem Requested.alerts_eq {limit : Nat} (requested : Requested limit before after) :
    after.aggregator.alerts = before.aggregator.alerts := by
  rw [requested.frame]

theorem adoptPrevious_alerts (previous : List Allocation) (now : Nat) (controller : Controller) :
    (controller.adoptPrevious previous now).aggregator.alerts = controller.aggregator.alerts := by
  apply adoptPrevious_keeps fun reached => reached.aggregator.alerts = controller.aggregator.alerts
  · intro allocation _ reached _ same
    exact same
  · rfl

theorem Granted.alerts_eq {allocation : Allocation} (granted : Granted before allocation after) :
    after.aggregator.alerts = before.aggregator.alerts := by
  cases granted <;> rfl

theorem markReady_alerts (controller : Controller) (id : String) (now : Nat) :
    (controller.markReady id now).aggregator.alerts = controller.aggregator.alerts := by
  simp only [markReady]
  split
  · rfl
  · split <;> rfl

theorem recordSample_alerts (controller : Controller) (now : Nat) (sample : Sample) :
    (controller.recordSample now sample).1.aggregator.alerts = controller.aggregator.alerts := by
  have marked : (if sample.ready then controller.markReady sample.replica now
      else controller).aggregator.alerts = controller.aggregator.alerts := by
    split
    · exact markReady_alerts ..
    · rfl
  simp only [recordSample]
  cases sample.metrics with
  | none => exact marked
  | some text => exact (Telemetry.Aggregator.ingest_alerts ..).trans marked

theorem recordSamples_alerts (samples : List (Nat × Sample)) (controller : Controller) :
    (recordSamples controller samples).1.aggregator.alerts = controller.aggregator.alerts := by
  induction samples generalizing controller with
  | nil => rfl
  | cons timed rest ih => exact (ih _).trans (recordSample_alerts controller timed.1 timed.2)

theorem assessed_alerts (surroundings : Surroundings World) (controller : Controller)
    (world : World) :
    (controller.assessed surroundings world).2.1.aggregator.alerts =
      controller.aggregator.alerts := by
  have replenished := replenish_replenished surroundings controller (surroundings.clock world)
    world
  simp only [assessed, assess, sampleReplicas_eq]
  rw [recordSamples_alerts, replenished.frame]

/-! ## Rounds -/

/-- What a round records of the target: nothing where it stays, and where it changes one event that
names the targets before and after. -/
inductive Retargeted (before after : Nat) : List Alert → Prop
  | steady (same : after = before) : Retargeted before after []
  | raised (higher : before < after) (time : Nat) :
      Retargeted before after [.scalingEvent "Scale up" before after time]
  | lowered (lower : after < before) (time : Nat) :
      Retargeted before after [.scalingEvent "Scale down" before after time]

theorem Halted.alerts_eq {victim : Option Replica} (halted : Halted before victim after) :
    after.aggregator.alerts = before.aggregator.alerts := by
  rw [halted.frame]

theorem rescale_logs (controller : Controller) (event : String) (target now : Nat) :
    Logs [.scalingEvent event controller.target target now] controller
      (controller.rescale event target now) :=
  .alert { controller with target := target } _

theorem Acted.logs {target : Nat} {world : World}
    (acted : Acted surroundings before target world after) :
    ∃ alerts, Retargeted before.target target alerts ∧ Logs alerts before after := by
  cases acted with
  | raised higher =>
      exact ⟨_, .raised higher _,
        (before.rescale_logs "Scale up" target _).then_same (requestMissing_requested ..).alerts_eq⟩
  | lowered lower =>
      have halting :=
        (before.rescale "Scale down" target (surroundings.epoch world)).stopOldest_halted
      rcases halting with ⟨victim, halted⟩
      exact ⟨_, .lowered lower _,
        (before.rescale_logs "Scale down" target _).then_same halted.alerts_eq⟩
  | trimmed same =>
      rcases before.stopOldest_halted with ⟨victim, halted⟩
      exact ⟨[], .steady same, .of_same halted.alerts_eq⟩
  | kept same => exact ⟨[], .steady same, .of_same rfl⟩

theorem tick_logs (surroundings : Surroundings World) (controller : Controller) (world : World) :
    ∃ alerts, Retargeted controller.target (controller.tick surroundings world).1.target alerts ∧
      Logs alerts controller (controller.tick surroundings world).1 := by
  rcases tick_acted surroundings controller world with ⟨after, ticked, acted⟩
  rcases acted.logs with ⟨alerts, retargeted, logged⟩
  rw [assessed_target, ← tick_target] at retargeted
  refine ⟨alerts, retargeted, ?_⟩
  have assessed := Logs.of_same (assessed_alerts surroundings controller world)
  rw [ticked]
  exact (assessed.trans logged).then_same rfl

end Controller

end Fleet
