import Fleet.Proofs.Telemetry.Totals

/-!
# What a latency sample is measured from

A report adds to the latencies of a model the mean over the inferences since the last report of the
replica: the growth of the microseconds by that of the inferences. Each counter is looked at by
itself. One that went backwards counts from zero, the others go on from their last reading. So the
two parts of a mean are measured from one baseline exactly if no counter went backwards, or if both
parts count from zero. After a restart of the server, a counter that has overtaken its last reading
does not, unless that reading was zero.
-/

namespace Fleet.Telemetry

/-! ## Baselines -/

section Baselines

variable (before now : ModelCounters)

/-- Whether a counter went backwards. -/
def WentBack (kind : CounterKind) : Prop := now.count kind < before.count kind

instance : DecidablePred (WentBack before now) :=
  fun _ => inferInstanceAs (Decidable (_ < _))

/-- Whether some counter went backwards, so that the server has started again. -/
def Restarted : Prop := ∃ kind, WentBack before now kind

/-- Whether a counter counts from zero: it went backwards, or was at zero before. -/
def CountsFromZero (kind : CounterKind) : Prop :=
  WentBack before now kind ∨ before.count kind = 0

instance : DecidablePred (CountsFromZero before now) :=
  fun _ => inferInstanceAs (Decidable (_ ∨ _))

/-- Whether amounts of microseconds and of inferences are measured from one baseline: from the last
reading, or from zero after a restart. -/
def FromOneBaseline (microseconds inferences : UInt64) : Prop :=
  ¬Restarted before now ∧ microseconds = now.microseconds - before.microseconds ∧
      inferences = now.inferences - before.inferences ∨
    Restarted before now ∧ microseconds = now.microseconds ∧ inferences = now.inferences

end Baselines

theorem growth_of_not_lt {before now : UInt64} (grown : ¬now < before) :
    ModelCounters.growth before now = now - before :=
  if_pos (UInt64.not_lt.mp grown)

theorem growth_eq_now_iff {before now : UInt64} :
    ModelCounters.growth before now = now ↔ now < before ∨ before = 0 := by
  by_cases back : now < before
  · have fresh : ModelCounters.growth before now = now := if_neg (UInt64.not_le.mpr back)
    simp [fresh, back]
  · rw [growth_of_not_lt back]
    simp only [back, false_or]
    constructor
    · intro same
      have exact := congrArg UInt64.toNat same
      have grown := UInt64.not_lt.mp back
      rw [UInt64.toNat_sub_of_le _ _ grown] at exact
      rw [UInt64.le_iff_toNat_le] at grown
      apply UInt64.toNat_inj.mp
      rw [UInt64.toNat_zero]
      omega
    · rintro rfl
      exact UInt64.sub_zero now

theorem fromOneBaseline_iff (before now : ModelCounters) :
    FromOneBaseline before now (now.since before).microseconds (now.since before).inferences ↔
      ¬Restarted before now ∨
        CountsFromZero before now .microseconds ∧ CountsFromZero before now .inferences := by
  have microseconds : (now.since before).microseconds = now.microseconds ↔
      CountsFromZero before now .microseconds := growth_eq_now_iff
  have inferences : (now.since before).inferences = now.inferences ↔
      CountsFromZero before now .inferences := growth_eq_now_iff
  rw [← microseconds, ← inferences, FromOneBaseline]
  by_cases restarted : Restarted before now
  · simp [restarted]
  · have grown (kind : CounterKind) : ¬now.count kind < before.count kind :=
      fun back => restarted ⟨kind, back⟩
    simp only [restarted, not_false_eq_true, true_and, false_and, or_false, true_or, iff_true]
    exact ⟨growth_of_not_lt (grown .microseconds), growth_of_not_lt (grown .inferences)⟩

/-! ## Samples -/

namespace Aggregator

/-- The latencies of a model. -/
def latenciesOf (aggregator : Aggregator) (model : String) : LatencyWindow :=
  (aggregator.activityOf model).latencies

end Aggregator

/-- A model gets a sample with every report in which its inferences have grown, and no other one. -/
theorem latenciesOf_take_of_some (aggregator : Aggregator) (scrape : Scrape) {text : String}
    (gave : scrape.text = some text) (model : String) :
    let growth := (countersOf (countersOfSamples (readExposition text)) model).since
      (aggregator.lastCounters scrape.replica model)
    (aggregator.take scrape).latenciesOf model =
      if growth.inferences = 0 then aggregator.latenciesOf model
      else (aggregator.latenciesOf model).push growth.meanLatency := by
  intro growth
  have follows : (aggregator.take scrape).activityOf model =
      (aggregator.activityOf model).follow growth := by
    simp only [Aggregator.take, gave]
    exact activityOf_ingest ..
  rw [Aggregator.latenciesOf, follows, ModelActivity.follow]
  by_cases idle : growth.requests = 0 ∧ growth.inferences = 0
  · rw [if_pos idle, if_pos idle.2]
    rfl
  · rw [if_neg idle]
    rfl

/-- Whether a scrape tells nothing new of a replica. -/
def Scrape.IsSilentOn (replica : String) (scrape : Scrape) : Prop :=
  scrape.replica ≠ replica ∨ scrape.text = none

theorem lastCounters_foldl_take (replica model : String) {scrapes : List Scrape}
    (silent : ∀ scrape ∈ scrapes, scrape.IsSilentOn replica) (aggregator : Aggregator) :
    (scrapes.foldl Aggregator.take aggregator).lastCounters replica model =
      aggregator.lastCounters replica model := by
  apply List.foldlRecOn (motive := fun reached : Aggregator =>
    reached.lastCounters replica model = aggregator.lastCounters replica model)
  · rfl
  · intro reached same scrape among
    rw [← same]
    rcases silent scrape among with other | failed
    · exact lastCounters_take_of_ne reached model other
    · exact lastCounters_take_of_none reached model failed

/-- What the latency samples of a model are measured from. Of two consecutive texts of a replica,
with other scrapes in between, the second one adds a sample if the model's inferences have grown:
the mean over the growth of its counters since the first text. The two parts of the mean are
measured from one baseline exactly if none of the four counters went backwards, or both of them
count from zero. -/
theorem sample_measured_from (aggregator : Aggregator) (replica host : String) (first : String)
    {between : List Scrape} (silent : ∀ scrape ∈ between, scrape.IsSilentOn replica)
    (address second model : String) :
    let earlier := countersOf (countersOfSamples (readExposition first)) model
    let now := countersOf (countersOfSamples (readExposition second)) model
    let growth := now.since earlier
    let reached := between.foldl Aggregator.take (aggregator.take ⟨replica, host, some first⟩)
    (reached.take ⟨replica, address, some second⟩).latenciesOf model =
        (if growth.inferences = 0 then reached.latenciesOf model
        else (reached.latenciesOf model).push growth.meanLatency) ∧
      (FromOneBaseline earlier now growth.microseconds growth.inferences ↔
        ¬Restarted earlier now ∨
          CountsFromZero earlier now .microseconds ∧ CountsFromZero earlier now .inferences) := by
  intro earlier now growth reached
  have last : reached.lastCounters replica model = earlier := by
    rw [lastCounters_foldl_take replica model silent]
    exact lastCounters_take_of_some aggregator model rfl
  refine ⟨?_, fromOneBaseline_iff earlier now⟩
  have sampled := latenciesOf_take_of_some reached ⟨replica, address, some second⟩ rfl model
  rwa [last] at sampled

/-- What a server says of the inferences of a model and of the microseconds they took. -/
def inferenceText (inferences microseconds : String) : String :=
  "nv_inference_count\x7bmodel=\"m\"\x7d " ++ inferences ++ "\n" ++
    "nv_inference_request_duration_us\x7bmodel=\"m\"\x7d " ++ microseconds ++ "\n"

theorem countersOf_hundredInferences :
    countersOf (countersOfSamples (readExposition (inferenceText "100" "2000000"))) "m" =
      ⟨0, 0, 100, 2000000⟩ := by
  decide +kernel

theorem countersOf_tenInferences :
    countersOf (countersOfSamples (readExposition (inferenceText "10" "3000000"))) "m" =
      ⟨0, 0, 10, 3000000⟩ := by
  decide +kernel

/-- After a restart, ten inferences took three seconds. Since the microseconds have overtaken their
last reading and the inferences have not, the sample is a hundred milliseconds. -/
theorem sample_over_two_baselines :
    let between : List Scrape := [⟨"r", "h", none⟩, ⟨"other", "h", some ""⟩]
    let reached := between.foldl Aggregator.take
      (({} : Aggregator).take ⟨"r", "h", some (inferenceText "100" "2000000")⟩)
    (∀ scrape ∈ between, scrape.IsSilentOn "r") ∧
      (reached.take ⟨"r", "h", some (inferenceText "10" "3000000")⟩).latenciesOf "m" =
        (reached.latenciesOf "m").push 100 ∧
      ¬FromOneBaseline ⟨0, 0, 100, 2000000⟩ ⟨0, 0, 10, 3000000⟩ 1000000 10 := by
  intro between reached
  have silent : ∀ scrape ∈ between, scrape.IsSilentOn "r" := by
    simp [between, Scrape.IsSilentOn]
  obtain ⟨sampled, measured⟩ := sample_measured_from {} "r" "h" (inferenceText "100" "2000000")
    silent "h" (inferenceText "10" "3000000") "m"
  rw [countersOf_hundredInferences, countersOf_tenInferences] at sampled measured
  have mean : (ModelCounters.since ⟨0, 0, 10, 3000000⟩ ⟨0, 0, 100, 2000000⟩).meanLatency = 100 := by
    decide +kernel
  refine ⟨silent, ?_, ?_⟩
  · rw [mean] at sampled
    exact sampled
  · intro one
    have restarted : Restarted ⟨0, 0, 100, 2000000⟩ ⟨0, 0, 10, 3000000⟩ := ⟨.inferences, by decide⟩
    have mixed := (measured.mp one).resolve_left (not_not_intro restarted)
    revert mixed
    decide

/-- A sample may be measured from two baselines. -/
theorem baselines_differ :
    ¬∀ first second model : String,
      let earlier := countersOf (countersOfSamples (readExposition first)) model
      let now := countersOf (countersOfSamples (readExposition second)) model
      let growth := now.since earlier
      growth.inferences ≠ 0 →
        FromOneBaseline earlier now growth.microseconds growth.inferences := by
  intro always
  have one := always (inferenceText "100" "2000000") (inferenceText "10" "3000000") "m"
  rw [countersOf_hundredInferences, countersOf_tenInferences] at one
  rcases one (by decide) with ⟨intact, -, -⟩ | ⟨-, microseconds, -⟩
  · exact intact ⟨.inferences, by decide⟩
  · revert microseconds
    decide

end Fleet.Telemetry
