import Fleet.Proofs.Binary64
import Fleet.Telemetry.Load
import Mathlib.Algebra.BigOperators.Group.List.Basic

/-!
# The load signal

The load of a replica depends on its usable utilization readings and, only where there are none, on
whether requests are counted. So samples that are neither may be inserted anywhere, and counters of
requests beside a reading.

Rounding makes the computed mean depend on the order of the readings. What the computation means is
therefore stated by carrying out the same steps in another arithmetic: `Arithmetic.load` takes the
numbers and their operations as parameters. It is the computed load for floating-point numbers, and
the clamped mean for rational ones.
-/

namespace Fleet.Telemetry

/-! ## Readings and noise -/

namespace Sample

/-- A usable reading of utilization: a finite value, labelled with its accelerator. -/
structure ReportsUtilization (sample : Sample) : Prop where
  named : sample.name = "nv_gpu_utilization"
  labelled : ∃ label ∈ sample.labels, label.1 = "gpu" ∨ label.1 = "gpu_uuid"
  finite : ∃ value, sample.value = .finite value

/-- A sample that says nothing about the load: a reading of utilization that is not usable, or a
sample that is neither a reading of utilization nor a count of successful requests. -/
inductive IsNoise (sample : Sample) : Prop where
  | notFinite (named : sample.name = "nv_gpu_utilization")
      (infinite : ∀ value, sample.value ≠ .finite value)
  | unlabelled (named : sample.name = "nv_gpu_utilization")
      (without : ∀ label ∈ sample.labels, label.1 ≠ "gpu" ∧ label.1 ≠ "gpu_uuid")
  | unrelated (other : sample.name ≠ "nv_gpu_utilization")
      (uncounted : sample.name ≠ "nv_inference_request_success")

variable {sample : Sample}

theorem isUtilization_iff : sample.isUtilization = true ↔ sample.ReportsUtilization := by
  have finite : sample.value.isFinite = true ↔ ∃ value, sample.value = .finite value := by
    cases sample.value <;> simp [Binary64.isFinite]
  have labelled : sample.accelerator?.isSome = true ↔
      ∃ label ∈ sample.labels, label.1 = "gpu" ∨ label.1 = "gpu_uuid" := by
    rw [accelerator?, Option.isSome_or, Bool.or_eq_true, label?, label?, List.lookup_isSome_iff,
      List.lookup_isSome_iff]
    grind
  rw [isUtilization, Bool.and_eq_true, Bool.and_eq_true, beq_iff_eq, finite, labelled]
  constructor
  · rintro ⟨⟨named, labelled⟩, finite⟩
    exact ⟨named, labelled, finite⟩
  · rintro ⟨named, labelled, finite⟩
    exact ⟨⟨named, labelled⟩, finite⟩

instance : DecidablePred ReportsUtilization :=
  fun _ => decidable_of_iff _ isUtilization_iff

theorem countsSuccesses_iff :
    sample.countsSuccesses = true ↔ sample.name = "nv_inference_request_success" := by
  rw [countsSuccesses, beq_iff_eq]

theorem IsNoise.not_reportsUtilization (noise : sample.IsNoise) :
    ¬sample.ReportsUtilization := by
  rintro ⟨named, ⟨label, among, key⟩, value, finite⟩
  cases noise with
  | notFinite _ infinite => exact infinite value finite
  | unlabelled _ without =>
      have other := without label among
      rcases key with gpu | uuid
      · exact other.1 gpu
      · exact other.2 uuid
  | unrelated other => exact other named

theorem IsNoise.not_countsSuccesses (noise : sample.IsNoise) :
    sample.name ≠ "nv_inference_request_success" := by
  cases noise with
  | notFinite named => simp [named]
  | unlabelled named => simp [named]
  | unrelated _ uncounted => exact uncounted

end Sample

/-- The second list is the first one with samples of a kind inserted, any number of them and at any
positions. -/
inductive Inserted (kind : Sample → Prop) : List Sample → List Sample → Prop where
  | nil : Inserted kind [] []
  | keep {sample : Sample} {before after : List Sample} (rest : Inserted kind before after) :
      Inserted kind (sample :: before) (sample :: after)
  | insert {sample : Sample} {before after : List Sample} (isKind : kind sample)
      (rest : Inserted kind before after) : Inserted kind before (sample :: after)

namespace Inserted

variable {kind : Sample → Prop} {before after : List Sample} {property : Sample → Bool}

/-- The selected samples stay the same if nothing of the inserted kind is selected. -/
theorem filter_eq (inserted : Inserted kind before after)
    (without : ∀ sample, kind sample → property sample = false) :
    after.filter property = before.filter property := by
  induction inserted with
  | nil => rfl
  | @keep sample before after rest ih => rw [List.filter_cons, List.filter_cons, ih]
  | @insert sample before after isKind rest ih =>
      rw [List.filter_cons_of_neg (by simp [without sample isKind]), ih]

theorem any_eq (inserted : Inserted kind before after)
    (without : ∀ sample, kind sample → property sample = false) :
    after.any property = before.any property := by
  induction inserted with
  | nil => rfl
  | @keep sample before after rest ih => rw [List.any_cons, List.any_cons, ih]
  | @insert sample before after isKind rest ih =>
      rw [List.any_cons, without sample isKind, Bool.false_or, ih]

end Inserted

/-! ## The load in any arithmetic -/

/-- The arithmetic in which a load is computed: what values and counts stand for, the operations,
and the order. -/
structure Arithmetic (Number : Type) where
  ofValue : Binary64 → Number
  ofCount : Nat → Number
  add : Number → Number → Number
  divide : Number → Number → Number
  isBelow : Number → Number → Bool

namespace Arithmetic

variable {Number : Type} (arithmetic : Arithmetic Number)

/-- A number moved to the nearer of zero and one where it lies outside of them. -/
def clamp (number : Number) : Number :=
  if arithmetic.isBelow number (arithmetic.ofCount 0) then arithmetic.ofCount 0
  else if arithmetic.isBelow (arithmetic.ofCount 1) number then arithmetic.ofCount 1
  else number

/-- The load of a replica with the given samples, computed in an arithmetic. -/
def load (samples : List Sample) : Number :=
  let readings := (samples.filter Sample.isUtilization).map (arithmetic.ofValue ·.value)
  arithmetic.clamp <|
    if !readings.isEmpty then
      arithmetic.divide
        (arithmetic.divide (readings.foldl arithmetic.add (arithmetic.ofCount 0))
          (arithmetic.ofCount readings.length))
        (arithmetic.ofCount 100)
    else if samples.any Sample.countsSuccesses then arithmetic.ofValue servingLoad
    else arithmetic.ofCount 0

/-- Floating-point numbers, each operation with one rounding. -/
def rounded : Arithmetic Binary64 where
  ofValue := id
  ofCount := Binary64.ofNat
  add := (· + ·)
  divide := (· / ·)
  isBelow := Binary64.lt

/-- Rational numbers. A finite value is a whole number of units; the other values do not occur. -/
def exact : Arithmetic ℚ where
  ofValue
    | .finite value => value.units / Binary64.unit
    | _ => 0
  ofCount := Nat.cast
  add := (· + ·)
  divide := (· / ·)
  isBelow left right := left < right

/-- The computed load is the one in floating-point numbers. -/
theorem load_rounded : rounded.load = loadOfSamples := rfl

/-- Only readings count, and counters of successes only where there is no reading. -/
theorem load_of_inserted {kind : Sample → Prop} {before after : List Sample}
    (inserted : Inserted kind before after)
    (unread : ∀ sample, kind sample → ¬sample.ReportsUtilization)
    (immaterial : (∃ sample ∈ before, sample.ReportsUtilization) ∨
      ∀ sample, kind sample → sample.name ≠ "nv_inference_request_success") :
    arithmetic.load after = arithmetic.load before := by
  have readings : after.filter Sample.isUtilization = before.filter Sample.isUtilization := by
    apply inserted.filter_eq
    intro sample isKind
    rw [Bool.eq_false_iff, ne_eq, Sample.isUtilization_iff]
    exact unread sample isKind
  rw [load, load, readings]
  rcases immaterial with ⟨sample, among, reports⟩ | uncounted
  · have some : sample ∈ before.filter Sample.isUtilization :=
      List.mem_filter.mpr ⟨among, Sample.isUtilization_iff.mpr reports⟩
    have nonempty : before.filter Sample.isUtilization ≠ [] := List.ne_nil_of_mem some
    simp [nonempty]
  · have counters : after.any Sample.countsSuccesses = before.any Sample.countsSuccesses := by
      apply inserted.any_eq
      intro sample isKind
      rw [Bool.eq_false_iff, ne_eq, Sample.countsSuccesses_iff]
      exact uncounted sample isKind
    rw [counters]

/-! ## The clamped mean -/

theorem exact_clamp (number : ℚ) : exact.clamp number = min 1 (max 0 number) := by
  simp only [clamp, exact, decide_eq_true_eq, Nat.cast_zero, Nat.cast_one]
  split
  · next below => rw [max_eq_left (le_of_lt below), min_eq_right zero_le_one]
  · next notBelow =>
    rw [max_eq_right (le_of_not_gt notBelow)]
    split
    · next above => rw [min_eq_left (le_of_lt above)]
    · next notAbove => rw [min_eq_right (le_of_not_gt notAbove)]

/-- The mean of the usable readings. -/
def meanUtilization (samples : List Sample) : ℚ :=
  let readings := samples.filter (Sample.ReportsUtilization ·)
  (readings.map (exact.ofValue ·.value)).sum / readings.length

theorem meanUtilization_perm {samples permuted : List Sample} (same : samples.Perm permuted) :
    meanUtilization permuted = meanUtilization samples := by
  have readings := same.filter (Sample.ReportsUtilization ·)
  rw [meanUtilization, meanUtilization, readings.length_eq, (readings.map _).sum_eq]

/-- The load in exact arithmetic, with its fallbacks. -/
theorem exact_load_eq (samples : List Sample) :
    exact.load samples = min 1 (max 0
      (if ∃ sample ∈ samples, sample.ReportsUtilization then meanUtilization samples / 100
      else if ∃ sample ∈ samples, sample.name = "nv_inference_request_success" then
        exact.ofValue servingLoad
      else 0)) := by
  have usable : samples.filter Sample.isUtilization =
      samples.filter (Sample.ReportsUtilization ·) := by
    apply List.filter_congr
    intro sample _
    rw [Bool.eq_iff_iff, decide_eq_true_eq, Sample.isUtilization_iff]
  have counted : samples.any Sample.countsSuccesses = true ↔
      ∃ sample ∈ samples, sample.name = "nv_inference_request_success" := by
    simp only [List.any_eq_true, Sample.countsSuccesses_iff]
  have read : (!(samples.filter (Sample.ReportsUtilization ·)).isEmpty) = true ↔
      ∃ sample ∈ samples, sample.ReportsUtilization := by
    simp
  have zero : exact.ofCount 0 = 0 := Nat.cast_zero
  have hundred : exact.ofCount 100 = 100 := Nat.cast_ofNat
  have mean : exact.divide
      (exact.divide (((samples.filter (Sample.ReportsUtilization ·)).map
          (exact.ofValue ·.value)).foldl exact.add (exact.ofCount 0))
        (exact.ofCount (samples.filter (Sample.ReportsUtilization ·)).length))
      (exact.ofCount 100) = meanUtilization samples / 100 := by
    rw [meanUtilization, List.sum_eq_foldl, zero, hundred]
    rfl
  rw [load, exact_clamp, usable, List.isEmpty_map, if_congr read rfl rfl,
    if_congr counted rfl rfl, List.length_map, mean, zero]

/-- The load does not depend on the order of the samples. -/
theorem exact_load_perm {samples permuted : List Sample} (same : samples.Perm permuted) :
    exact.load permuted = exact.load samples := by
  simp only [exact_load_eq, meanUtilization_perm same, same.mem_iff]

end Arithmetic

/-! ## The rounded load -/

section Rounded

open Binary64

/-- A sum of finite values is a number, also where it exceeds the range. -/
theorem isNaN_sumFrom {values : List Binary64} (finite : ∀ value ∈ values, value.isFinite = true)
    {start : Binary64} (number : start.isNaN = false) : (sumFrom start values).isNaN = false := by
  induction values generalizing start with
  | nil => exact number
  | cons value values ih =>
      rcases List.forall_mem_cons.mp finite with ⟨first, others⟩
      apply ih others
      cases value with
      | notANumber pattern => cases first
      | infinite negative => cases first
      | finite value => exact isNaN_add_finite number value

/-- The rounded load is between zero and one, too, if the number of samples fits into a word. -/
theorem loadOfSamples_within {samples : List Sample} (few : samples.length < UInt64.size) :
    Binary64.le 0 (loadOfSamples samples) = true ∧
      Binary64.le (loadOfSamples samples) 1 = true := by
  have zero : (0 : Binary64).isNaN = false := rfl
  have serving : servingLoad.isNaN = false := by decide
  apply clamp_within ?_ (by decide +kernel)
  split
  · next read =>
    have finite : ∀ value ∈ (samples.filter Sample.isUtilization).map Sample.value,
        value.isFinite = true := by
      intro value among
      rcases List.mem_map.mp among with ⟨sample, selected, rfl⟩
      have usable := (List.mem_filter.mp selected).2
      simp only [Sample.isUtilization, Bool.and_eq_true] at usable
      exact usable.2
    have count : ((samples.filter Sample.isUtilization).map Sample.value).length < UInt64.size := by
      rw [List.length_map]
      exact Nat.lt_of_le_of_lt (List.length_filter_le _ _) few
    generalize (samples.filter Sample.isUtilization).map Sample.value = readings at *
    have some : 0 < readings.length := by
      simpa [List.length_pos_iff] using read
    rcases exists_ofNat some count with ⟨divisor, same, nonzero⟩
    rcases exists_ofNat (by decide : 0 < 100) (by decide) with ⟨hundred, percent, notZero⟩
    change (_ / ofNat 100).isNaN = false
    rw [same, percent]
    exact isNaN_div_finite (isNaN_div_finite (isNaN_sumFrom finite zero) nonzero) notZero
  · split
    · exact serving
    · exact zero
end Rounded

/-- Samples that say nothing about the load may be inserted anywhere, and beside a usable reading of
utilization also counters of successful requests. The load is computed with the steps of
`Arithmetic.load` and is between zero and one. In exact arithmetic these steps give the mean of the
usable readings as a fraction, held between these bounds, whatever the order of the samples is. -/
theorem load_immune_to_noise :
    (∀ samples extended, Inserted Sample.IsNoise samples extended →
      loadOfSamples extended = loadOfSamples samples) ∧
    (∀ samples extended, (∃ sample ∈ samples, sample.ReportsUtilization) →
      Inserted (fun sample => sample.IsNoise ∨ sample.name = "nv_inference_request_success")
        samples extended →
      loadOfSamples extended = loadOfSamples samples) ∧
    Arithmetic.rounded.load = loadOfSamples ∧
    (∀ samples : List Sample, samples.length < UInt64.size →
      Binary64.le 0 (loadOfSamples samples) = true ∧
        Binary64.le (loadOfSamples samples) 1 = true) ∧
    ∀ samples,
      ((∃ sample ∈ samples, sample.ReportsUtilization) →
        Arithmetic.exact.load samples =
          min 1 (max 0 (Arithmetic.meanUtilization samples / 100))) ∧
      0 ≤ Arithmetic.exact.load samples ∧ Arithmetic.exact.load samples ≤ 1 ∧
      ∀ permuted, samples.Perm permuted →
        Arithmetic.exact.load permuted = Arithmetic.exact.load samples := by
  refine ⟨?noise, ?counters, Arithmetic.load_rounded, fun _ => loadOfSamples_within, ?exact⟩
  case noise =>
    intro samples extended inserted
    apply Arithmetic.rounded.load_of_inserted inserted
    · intro sample noise
      exact noise.not_reportsUtilization
    · right
      intro sample noise
      exact noise.not_countsSuccesses
  case counters =>
    intro samples extended reports inserted
    apply Arithmetic.rounded.load_of_inserted inserted
    · rintro sample (noise | counter)
      · exact noise.not_reportsUtilization
      · intro reports
        rw [reports.named] at counter
        exact absurd counter (by decide)
    · exact Or.inl reports
  case exact =>
    intro samples
    refine ⟨?mean, ?least, ?greatest, ?order⟩
    case mean =>
      intro reports
      rw [Arithmetic.exact_load_eq, if_pos reports]
    case least =>
      rw [Arithmetic.exact_load_eq]
      exact le_min zero_le_one (le_max_left 0 _)
    case greatest =>
      rw [Arithmetic.exact_load_eq]
      exact min_le_left 1 _
    case order =>
      intro permuted same
      exact Arithmetic.exact_load_perm same

/-- A reading of 50 percent. -/
def halfBusy : Sample := ⟨"nv_gpu_utilization", [("gpu", "0")], 50⟩

/-- The reading after an infinite one. -/
def halfBusyAfterInfinite : List Sample :=
  [⟨"nv_gpu_utilization", [("gpu", "1")], .infinite false⟩, halfBusy]

/-- The reading between an infinite one and a count of requests. -/
def halfBusyAmidNoise : List Sample :=
  halfBusyAfterInfinite ++ [⟨"nv_inference_request_success", [], 7⟩]

theorem load_halfBusyAmidNoise :
    Inserted Sample.IsNoise [halfBusy] halfBusyAfterInfinite ∧
      loadOfSamples halfBusyAfterInfinite = loadOfSamples [halfBusy] ∧
      halfBusy.ReportsUtilization ∧
      Inserted (fun sample => sample.IsNoise ∨ sample.name = "nv_inference_request_success")
        [halfBusy] halfBusyAmidNoise ∧
      loadOfSamples halfBusyAmidNoise = loadOfSamples [halfBusy] ∧
      halfBusyAmidNoise.length < UInt64.size ∧
      Binary64.le (loadOfSamples halfBusyAmidNoise) 1 = true ∧
      Arithmetic.exact.load [halfBusy] =
        min 1 (max 0 (Arithmetic.meanUtilization [halfBusy] / 100)) ∧
      halfBusyAmidNoise.Perm halfBusyAmidNoise.reverse ∧
      Arithmetic.exact.load halfBusyAmidNoise.reverse =
        Arithmetic.exact.load halfBusyAmidNoise := by
  have reports : halfBusy.ReportsUtilization := by decide
  have some : ∃ sample ∈ [halfBusy], sample.ReportsUtilization :=
    ⟨halfBusy, List.mem_singleton_self halfBusy, reports⟩
  have infinite : Sample.IsNoise ⟨"nv_gpu_utilization", [("gpu", "1")], .infinite false⟩ :=
    .notFinite rfl fun _ same => by cases same
  have noisy : Inserted Sample.IsNoise [halfBusy] halfBusyAfterInfinite :=
    .insert infinite (.keep .nil)
  have inserted : Inserted
      (fun sample => sample.IsNoise ∨ sample.name = "nv_inference_request_success")
      [halfBusy] halfBusyAmidNoise :=
    .insert (.inl infinite) (.keep (.insert (.inr rfl) .nil))
  have few : halfBusyAmidNoise.length < UInt64.size := by decide
  have reversed := halfBusyAmidNoise.reverse_perm.symm
  rcases load_immune_to_noise with ⟨immune, alsoToCounters, -, bounded, exactly⟩
  exact ⟨noisy, immune _ _ noisy, reports, inserted, alsoToCounters _ _ some inserted, few,
    (bounded _ few).2, (exactly _).1 some, reversed, (exactly _).2.2.2 _ reversed⟩

end Fleet.Telemetry
