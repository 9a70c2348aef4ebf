import Fleet.Controller.Settings
import Fleet.Proofs.Launch

/-!
# Settings from a valid configuration

Validation reads every duration that the settings need, but it does not know about ports. What is
left to go wrong after it are the ports of the ranks.
-/

namespace Fleet

namespace Config

theorem refuseIf_eq_ok_iff {condition : Bool} {error : ConfigError} {value : Unit} :
    refuseIf condition error = .ok value ↔ condition = false := by
  cases condition <;> simp [refuseIf]

/-- The check of the durations reads each one of them, and asks for a period. -/
theorem validateDurations_eq_ok_iff (config : Config) :
    config.validateDurations = .ok () ↔
      (∃ duration, config.cooldown = .ok duration) ∧
      (∃ tick, config.tickInterval = .ok tick ∧ tick.nanoseconds ≠ 0) ∧
      (∃ duration, config.probeTimeout = .ok duration) ∧
      (∃ duration, config.readyTimeout = .ok duration) ∧
      (∃ duration, config.allocationTimeout = .ok duration) ∧
      (∃ duration, config.breakerResetTimeout = .ok duration) ∧
      ∃ delays, config.retryDelays = .ok delays := by
  simp only [validateDurations, bind_eq_ok_iff, refuseIf_eq_ok_iff, pure, Except.pure,
    ne_eq, decide_eq_false_iff_not, and_true, exists_and_right, exists_const]
  constructor
  · rintro ⟨cooldown, tick, readTick, positive, others⟩
    exact ⟨cooldown, ⟨tick, readTick, positive⟩, others⟩
  · rintro ⟨cooldown, ⟨tick, readTick, positive⟩, others⟩
    exact ⟨cooldown, tick, readTick, positive, others⟩

/-- The check of a configuration goes through its sections. -/
theorem validate_eq_ok_iff (config : Config) :
    config.validate = .ok () ↔
      validateScaling config.scaling = .ok () ∧ config.server.worldSize ≠ 0 ∧
      config.controller.breaker.failureThreshold ≠ 0 ∧
      config.controller.retry.multiplier.lt 1 = false ∧ config.validateDurations = .ok () := by
  simp only [validate, bind_eq_ok_iff, refuseIf_eq_ok_iff, Unique.exists_iff]
  simp

end Config

namespace ControllerSettings

/-- Where all the durations can be read, the settings are missing only the launch plan. -/
theorem ofConfig_eq_map {config : Config} (durations : config.validateDurations = .ok ()) :
    ∃ complete : LaunchPlan → ControllerSettings,
      ofConfig config = ((LaunchPlan.ofConfig config).mapError .launch).map complete := by
  rw [Config.validateDurations_eq_ok_iff] at durations
  obtain ⟨⟨cooldown, readCooldown⟩, ⟨tick, readTick, -⟩, -, -, ⟨allocation, readAllocation⟩,
    ⟨reset, readReset⟩, ⟨delays, readDelays⟩⟩ := durations
  simp only [ofConfig, readCooldown, readTick, readAllocation, readReset, readDelays]
  exact ⟨_, rfl⟩

/-- A valid configuration gives settings exactly if the ports of its last rank fit into 16 bits.
Where they do not, the error is the one of the launch command. -/
theorem ofConfig_isOk_iff_ports_fit {config : Config} (valid : config.validate = .ok ()) :
    ((∃ settings, ofConfig config = .ok settings) ↔
      ∀ port ∈ [config.server.httpPort, config.server.grpcPort, config.server.metricsPort],
        port.toNat + 10 * (config.server.tensorParallelism.toNat *
          config.server.pipelineParallelism.toNat - 1) ≤ 65535) ∧
    ∀ error, ofConfig config = .error error →
      ∃ cause, error = .launch cause ∧
        (LaunchSpec.ofConfig config.server).build = .error cause := by
  rw [Config.validate_eq_ok_iff] at valid
  obtain ⟨-, someRank, -, -, durations⟩ := valid
  obtain ⟨complete, eqMap⟩ := ofConfig_eq_map durations
  constructor
  · have built := LaunchSpec.build_isOk_iff (LaunchSpec.ofConfig config.server)
    simp only [eqMap, exists_map_eq_ok_iff, mapError_eq_ok_iff, LaunchPlan.ofConfig,
      exists_bind_eq_ok_iff, exists_pure_eq_ok_iff, and_true, built]
    simp only [LaunchSpec.worldSize, LaunchSpec.ofConfig, ServerConfig.worldSize, UInt32.size,
      PortSet.highest, PortSet.stride, UInt16.size, List.mem_cons,
      List.not_mem_nil, or_false, forall_eq_or_imp, forall_eq] at someRank ⊢
    have httpSmall := config.server.httpPort.toNat_lt
    have grpcSmall := config.server.grpcPort.toNat_lt
    have metricsSmall := config.server.metricsPort.toNat_lt
    omega
  · intro error failed
    rw [eqMap, LaunchPlan.ofConfig] at failed
    cases built : (LaunchSpec.ofConfig config.server).build with
    | ok command => simp [built, bind, Except.bind, pure, Except.pure, Except.mapError,
        Except.map] at failed
    | error cause =>
      simp only [built, bind, Except.bind, Except.mapError, Except.map, Except.error.injEq]
        at failed
      exact ⟨cause, failed.symm, rfl⟩

/-- A configuration with four ranks of each replica, whose ports fit. -/
def fourRanks : Config :=
  { server := { tensorParallelism := 2, pipelineParallelism := 2, metricsPort := 65505 } }

theorem fourRanks_gives_settings :
    fourRanks.validate = .ok () ∧ ∃ settings, ofConfig fourRanks = .ok settings := by
  have valid : fourRanks.validate = .ok () := by decide +kernel
  refine ⟨valid, (ofConfig_isOk_iff_ports_fit valid).1.mpr ?_⟩
  simp [fourRanks]

/-- The ports of the second rank can be too high for a valid configuration. -/
theorem validate_does_not_see_ports :
    let config : Config := { server := { tensorParallelism := 2, httpPort := 65530 } }
    config.validate = .ok () ∧
      ofConfig config = .error (.launch (.portOverflow 65530 10 1)) := by
  constructor
  · decide +kernel
  · rfl

end ControllerSettings

end Fleet
