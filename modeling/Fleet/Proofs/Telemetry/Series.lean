import Fleet.Proofs.SortedMap
import Fleet.Proofs.Telemetry.RoundTrip
import Mathlib.Data.List.Nodup

/-!
# Families and series of the written metrics

A text of metrics declares each of its families by a help line and a type line, and each of its
samples belongs to the series of its name and its labels. The names of the accelerator families
are made from the metrics that replicas report, and two metrics can be written under one name.
The text is without repetitions exactly as far as this does not happen.
-/

namespace Fleet.Telemetry

open Text

/-! ## Declarations -/

/-- The family that a line declares after a marker: the name up to the next space. -/
def declared? (marker : String) (line : List Char) : Option String :=
  (dropHead? marker.toList line).map fun rest => String.ofList (rest.takeWhile (· != ' '))

/-- The families that have a help line in a text, once for each line. -/
def helpFamilies (text : String) : List String :=
  (lines text.toList).filterMap (declared? "# HELP ")

/-- The families that have a type line in a text, once for each line. -/
def typeFamilies (text : String) : List String :=
  (lines text.toList).filterMap (declared? "# TYPE ")

theorem declared?_append {name : String} (isName : IsName name) (marker : String)
    (rest : List Char) :
    declared? marker (marker.toList ++ name.toList ++ ' ' :: rest) = some name := by
  have inName : ∀ character ∈ name.toList, (character != ' ') = true := by
    intro character among
    exact bne_iff_ne.mpr (ne_of_isNameCharacter (isName.named character among) (by decide))
  simp [declared?, dropHead?_append, List.takeWhile_append_of_pos inName]

theorem declared?_lineText {sample : RenderedSample} (readable : sample.IsReadable)
    {marker : String} (comment : marker.toList.head? = some '#') :
    declared? marker sample.lineText = none := by
  obtain ⟨first, rest, same, named⟩ := readable.exists_cons
  obtain ⟨others, marked⟩ := List.head?_eq_some_iff.mp comment
  have hash : '#' ≠ first := (ne_of_isNameCharacter named (by decide)).symm
  simp [declared?, same, marked, dropHead?, hash]

/-- A marker that one of the two lines before the samples of each family starts with declares each
family once. -/
theorem filterMap_declared? {families : List Family}
    (readable : ∀ family ∈ families, family.IsReadable) {marker : String}
    (comment : marker.toList.head? = some '#')
    (once : ∀ family : Family, IsName family.name →
      [family.helpLine.toList, family.typeLine.toList].filterMap (declared? marker) =
        [family.name]) :
    (families.flatMap Family.lineTexts).filterMap (declared? marker) =
      families.map Family.name := by
  rw [List.filterMap_flatMap, List.map_eq_flatMap]
  apply List.flatMap_congr
  intro family among
  have samples :
      (family.samples.map RenderedSample.lineText).filterMap (declared? marker) = [] := by
    rw [List.filterMap_eq_nil_iff]
    intro line written
    obtain ⟨sample, rendered, rfl⟩ := List.mem_map.mp written
    exact declared?_lineText ((readable family among).samples sample rendered) comment
  have cut : family.lineTexts = [family.helpLine.toList, family.typeLine.toList] ++
      family.samples.map RenderedSample.lineText := rfl
  rw [cut, List.filterMap_append, once family (readable family among).name, samples,
    List.append_nil]

theorem helpFamilies_renderExposition (gauges : FleetGauges) (replicas : List ReplicaLoad)
    (models : List ModelReport) :
    helpFamilies (renderExposition gauges replicas models) =
      (families gauges replicas models).map Family.name := by
  rw [helpFamilies, lines_renderExposition]
  apply filterMap_declared? (isReadable_families gauges replicas models) rfl
  intro family isName
  have help : declared? "# HELP " family.helpLine.toList = some family.name := by
    simpa [Family.helpLine] using declared?_append isName "# HELP " family.help.toList
  have type : declared? "# HELP " family.typeLine.toList = none := by
    simp [declared?, Family.typeLine, dropHead?]
  rw [List.filterMap_cons_some help, List.filterMap_cons_none type, List.filterMap_nil]

theorem typeFamilies_renderExposition (gauges : FleetGauges) (replicas : List ReplicaLoad)
    (models : List ModelReport) :
    typeFamilies (renderExposition gauges replicas models) =
      (families gauges replicas models).map Family.name := by
  rw [typeFamilies, lines_renderExposition]
  apply filterMap_declared? (isReadable_families gauges replicas models) rfl
  intro family isName
  have help : declared? "# TYPE " family.helpLine.toList = none := by
    simp [declared?, Family.helpLine, dropHead?]
  have type : declared? "# TYPE " family.typeLine.toList = some family.name := by
    simpa [Family.typeLine] using declared?_append isName "# TYPE " "gauge".toList
  rw [List.filterMap_cons_none help, List.filterMap_cons_some type, List.filterMap_nil]

/-! ## Names of families -/

/-- The metrics are written under names of their own. -/
def WrittenApart (metrics : List String) : Prop :=
  ∀ first ∈ metrics, ∀ second ∈ metrics, metricName first = metricName second → first = second

instance (metrics : List String) : Decidable (WrittenApart metrics) :=
  inferInstanceAs (Decidable (∀ first ∈ metrics, ∀ second ∈ metrics,
    metricName first = metricName second → first = second))

/-- The names of the families before those of the accelerators. -/
def namesBefore : List String :=
  ["tarn_target_replicas", "tarn_running_replicas", "tarn_pending_allocations",
    "tarn_aggregate_load", "tarn_replica_load"]

/-- The names of the families after those of the accelerators. -/
def namesAfter : List String := ["tarn_model_error_rate", "tarn_model_latency_ms"]

/-- The names of the families, in the order in which they are written. -/
def familyNames (replicas : List ReplicaLoad) : List String :=
  namesBefore ++ (acceleratorMetrics replicas).map ("tarn_gpu_" ++ metricName ·) ++ namesAfter

theorem map_name_families (gauges : FleetGauges) (replicas : List ReplicaLoad)
    (models : List ModelReport) :
    (families gauges replicas models).map Family.name = familyNames replicas := by
  simp [families, FleetGauges.families, gauge, replicaFamily, acceleratorFamily, modelFamilies,
    familyNames, namesBefore, namesAfter, Function.comp_def]

/-- The samples of a family carry its name. -/
theorem name_of_mem_samples {gauges : FleetGauges} {replicas : List ReplicaLoad}
    {models : List ModelReport} {family : Family}
    (written : family ∈ families gauges replicas models) {sample : RenderedSample}
    (among : sample ∈ family.samples) : sample.name = family.name := by
  simp only [families, List.mem_append, List.mem_singleton, List.mem_map] at written
  rcases written with ((controller | rfl) | ⟨metric, -, rfl⟩) | model
  · simp only [FleetGauges.families, List.mem_cons, List.not_mem_nil, or_false] at controller
    rcases controller with rfl | rfl | rfl | rfl <;> rw [List.mem_singleton.mp among] <;> rfl
  · obtain ⟨load, -, rfl⟩ := List.mem_map.mp among
    rfl
  · obtain ⟨load, -, among⟩ := List.mem_flatMap.mp among
    obtain ⟨entry, -, read⟩ := List.mem_filterMap.mp among
    obtain ⟨value, -, rfl⟩ := Option.map_eq_some_iff.mp read
    rfl
  · simp only [modelFamilies, List.mem_cons, List.not_mem_nil, or_false] at model
    rcases model with rfl | rfl
    · obtain ⟨report, -, rfl⟩ := List.mem_map.mp among
      rfl
    · obtain ⟨report, -, among⟩ := List.mem_flatMap.mp among
      obtain ⟨share, -, rfl⟩ := List.mem_map.mp among
      rfl

theorem ne_accelerator {name : String} (other : name ∈ namesBefore ++ namesAfter)
    (metric : String) : name ≠ "tarn_gpu_" ++ metricName metric := by
  have unmarked : ∀ name ∈ namesBefore ++ namesAfter, ¬"tarn_gpu_".toList <+: name.toList := by
    decide
  rintro rfl
  exact unmarked _ other (by simp)

theorem notMem_namesAfter : ∀ name ∈ namesBefore, name ∉ namesAfter := by decide

theorem nodup_acceleratorMetrics (replicas : List ReplicaLoad) :
    (acceleratorMetrics replicas).Nodup :=
  SortedMap.nodup_keys _

theorem accelerator_inj {first second : String} :
    "tarn_gpu_" ++ metricName first = "tarn_gpu_" ++ metricName second ↔
      metricName first = metricName second := by
  constructor
  · intro same
    apply String.toList_injective
    simpa using congrArg String.toList same
  · exact congrArg ("tarn_gpu_" ++ ·)

/-- The names are distinct as far as those of the accelerator metrics are: the fixed names are
distinct, and none of them starts like those. -/
theorem nodup_familyNames_iff (replicas : List ReplicaLoad) :
    (familyNames replicas).Nodup ↔ WrittenApart (acceleratorMetrics replicas) := by
  have written : ((acceleratorMetrics replicas).map ("tarn_gpu_" ++ metricName ·)).Nodup ↔
      WrittenApart (acceleratorMetrics replicas) := by
    rw [List.nodup_map_iff_inj_on (nodup_acceleratorMetrics replicas)]
    simp only [accelerator_inj, WrittenApart]
  have before : namesBefore.Nodup := by decide
  have after : namesAfter.Nodup := by decide
  rw [← written, familyNames, List.nodup_append, List.nodup_append]
  constructor
  · exact fun distinct => distinct.1.2.1
  · intro distinct
    refine ⟨⟨before, distinct, ?_⟩, after, ?_⟩
    · intro name first other second
      obtain ⟨metric, -, rfl⟩ := List.mem_map.mp second
      exact ne_accelerator (List.mem_append_left _ first) metric
    · intro name first other second
      rcases List.mem_append.mp first with first | first
      · exact fun same => notMem_namesAfter name first (same ▸ second)
      · obtain ⟨metric, -, rfl⟩ := List.mem_map.mp first
        exact (ne_accelerator (List.mem_append_right _ second) metric).symm

/-! ## Series -/

/-- Whether two samples belong to one series: they have the same name and the same labels, in
whatever order. -/
def Sample.IsSameSeries (first second : Sample) : Prop :=
  first.name = second.name ∧ ∀ label, label ∈ first.labels ↔ label ∈ second.labels

/-- The keys of the labels of a sample, in the order in which they are written. -/
def labelKeys : List (List String) :=
  [[], ["replica_id", "host"], ["replica_id", "host", "gpu"], ["model"], ["model", "quantile"]]

theorem keys_mem_labelKeys {replicas : List ReplicaLoad} {models : List ModelReport}
    {head : String × List Label} (among : head ∈ sampleHeads replicas models) :
    head.2.map Prod.fst ∈ labelKeys := by
  simp only [sampleHeads, List.mem_append, List.mem_cons, List.mem_map, List.mem_flatMap,
    List.not_mem_nil, or_false] at among
  rcases among with (((gauge | ⟨load, -, rfl⟩) | accelerator) | ⟨report, -, rfl⟩) | latency
  · rcases gauge with rfl | rfl | rfl | rfl <;> decide
  · simp [labelKeys]
  · obtain ⟨metric, -, load, -, entry, -, rfl⟩ := accelerator
    simp [labelKeys]
  · simp [labelKeys]
  · obtain ⟨report, -, quantile, -, rfl⟩ := latency
    simp [labelKeys]

/-- Labels with the same keys in the same order are equal if they are equal as sets. -/
theorem eq_of_keys_eq {first second : List Label}
    (keys : first.map Prod.fst = second.map Prod.fst) (distinct : (first.map Prod.fst).Nodup)
    (within : ∀ label ∈ first, label ∈ second) : first = second := by
  induction first generalizing second with
  | nil => exact (List.map_eq_nil_iff.mp keys.symm).symm
  | cons label first ih =>
      obtain ⟨other, second, rfl⟩ : ∃ other rest, second = other :: rest :=
        List.exists_cons_of_ne_nil (by rintro rfl; simp at keys)
      simp only [List.map_cons, List.cons.injEq, List.nodup_cons] at keys distinct
      have same : label = other := by
        rcases List.mem_cons.mp (within label List.mem_cons_self) with same | later
        · exact same
        · exact absurd (keys.2 ▸ List.mem_map_of_mem later) distinct.1
      subst same
      rw [ih keys.2 distinct.2]
      intro next among
      rcases List.mem_cons.mp (within next (List.mem_cons_of_mem _ among)) with same | later
      · subst same
        exact absurd (List.mem_map_of_mem among) distinct.1
      · exact later

theorem labels_eq_of_same {first second : List Label} (firstKeys : first.map Prod.fst ∈ labelKeys)
    (secondKeys : second.map Prod.fst ∈ labelKeys)
    (same : ∀ label, label ∈ first ↔ label ∈ second) : first = second := by
  have told : ∀ keys ∈ labelKeys, ∀ others ∈ labelKeys,
      (∀ key ∈ keys, key ∈ others) → (∀ key ∈ others, key ∈ keys) → keys = others := by decide
  have distinct : ∀ keys ∈ labelKeys, keys.Nodup := by decide
  have keys : first.map Prod.fst = second.map Prod.fst := by
    apply told _ firstKeys _ secondKeys
    · intro key among
      obtain ⟨label, held, rfl⟩ := List.mem_map.mp among
      exact List.mem_map_of_mem ((same label).mp held)
    · intro key among
      obtain ⟨label, held, rfl⟩ := List.mem_map.mp among
      exact List.mem_map_of_mem ((same label).mpr held)
  exact eq_of_keys_eq keys (distinct _ firstKeys) fun label among => (same label).mp among

/-- No two samples of the written text belong to one series exactly if their names with their
labels, taken as lists, are distinct. -/
theorem unique_series_iff (gauges : FleetGauges) (replicas : List ReplicaLoad)
    (models : List ModelReport) :
    ((readExposition (renderExposition gauges replicas models)).Pairwise
        fun first second => ¬first.IsSameSeries second) ↔ (sampleHeads replicas models).Nodup := by
  rw [← heads_readExposition gauges, List.Nodup, List.pairwise_map]
  have keys : ∀ sample ∈ readExposition (renderExposition gauges replicas models),
      sample.labels.map Prod.fst ∈ labelKeys := by
    intro sample among
    have head := List.mem_map_of_mem (f := fun sample => (sample.name, sample.labels)) among
    rw [heads_readExposition] at head
    exact keys_mem_labelKeys head
  apply List.Pairwise.iff_of_mem
  intro first second firstAmong secondAmong
  apply not_congr
  constructor
  · rintro ⟨name, labels⟩
    rw [name, labels_eq_of_same (keys first firstAmong) (keys second secondAmong) labels]
  · intro same
    obtain ⟨name, labels⟩ := Prod.mk.inj same
    exact ⟨name, by simp [labels]⟩

/-- Parts that are without repetitions stay so when they are joined, if each item tells the key of
the part that it belongs to. -/
theorem nodup_flatMap_of_key {Source Item Key : Type} {sources : List Source}
    {part : Source → List Item} {key : Source → Key} (keyOf : Item → Key)
    (distinct : (sources.map key).Nodup) (each : ∀ source ∈ sources, (part source).Nodup)
    (told : ∀ source, ∀ item ∈ part source, keyOf item = key source) :
    (sources.flatMap part).Nodup := by
  rw [List.nodup_flatMap]
  refine ⟨each, (List.pairwise_map.mp distinct).imp ?_⟩
  intro first second different
  apply List.disjoint_left.mpr
  intro item inFirst inSecond
  exact different ((told first item inFirst).symm.trans (told second item inSecond))

section Accelerators

variable {replicas : List ReplicaLoad}

theorem mem_acceleratorMetrics {metric : String} :
    metric ∈ acceleratorMetrics replicas ↔
      ∃ load ∈ replicas, ∃ readings ∈ load.accelerators.values, metric ∈ readings.keys := by
  rw [acceleratorMetrics, SortedMap.mem_keys_ofList]
  simp only [List.map_flatMap, List.mem_flatMap, List.mem_map]
  constructor
  · rintro ⟨load, among, readings, reported, entry, ⟨metric, read, rfl⟩, rfl⟩
    exact ⟨load, among, readings, reported, read⟩
  · rintro ⟨load, among, readings, reported, read⟩
    exact ⟨load, among, readings, reported, _, ⟨metric, read, rfl⟩, rfl⟩

/-- The accelerator readings that are written, each by its metric, its replica and its
accelerator. -/
def readingPlaces (replicas : List ReplicaLoad) : List (String × ReplicaLoad × String) :=
  (acceleratorMetrics replicas).flatMap fun metric => replicas.flatMap fun load =>
    (load.accelerators.entries.filter fun entry => entry.2.contains metric).map fun entry =>
      (metric, load, entry.1)

/-- The name and the labels of a written accelerator reading. -/
def readingHead (place : String × ReplicaLoad × String) : String × List Label :=
  ("tarn_gpu_" ++ metricName place.1,
    [("replica_id", place.2.1.replica), ("host", place.2.1.host), ("gpu", place.2.2)])

theorem mem_readingPlaces {metric accelerator : String} {load : ReplicaLoad} :
    (metric, load, accelerator) ∈ readingPlaces replicas ↔
      load ∈ replicas ∧ ∃ readings, load.accelerators.get? accelerator = some readings ∧
        metric ∈ readings.keys := by
  simp only [readingPlaces, List.mem_flatMap, List.mem_map, List.mem_filter, Prod.mk.injEq]
  constructor
  · rintro ⟨_, -, _, among, ⟨_, readings⟩, ⟨held, reported⟩, rfl, rfl, rfl⟩
    exact ⟨among, readings, SortedMap.mem_entries_iff.mp held,
      SortedMap.contains_iff_mem_keys.mp reported⟩
  · rintro ⟨among, readings, held, reported⟩
    have entry := SortedMap.mem_entries_iff.mpr held
    have metrics : metric ∈ acceleratorMetrics replicas :=
      mem_acceleratorMetrics.mpr ⟨load, among, readings, List.mem_map_of_mem entry, reported⟩
    exact ⟨metric, metrics, load, among, (accelerator, readings),
      ⟨entry, SortedMap.contains_iff_mem_keys.mpr reported⟩, rfl, rfl, rfl⟩

variable (distinct : (replicas.map ReplicaLoad.replica).Nodup)
include distinct

theorem nodup_readingPlaces : (readingPlaces replicas).Nodup := by
  have metrics : ((acceleratorMetrics replicas).map id).Nodup := by
    simpa using nodup_acceleratorMetrics replicas
  apply nodup_flatMap_of_key Prod.fst metrics
  · intro metric _
    apply nodup_flatMap_of_key (fun place => place.2.1.replica) distinct
    · intro load _
      apply List.Nodup.of_map fun place => place.2.2
      rw [List.map_map]
      exact (SortedMap.nodup_keys load.accelerators).sublist (List.filter_sublist.map _)
    · intro load place among
      obtain ⟨entry, -, rfl⟩ := List.mem_map.mp among
      rfl
  · intro metric place among
    obtain ⟨load, -, among⟩ := List.mem_flatMap.mp among
    obtain ⟨entry, -, rfl⟩ := List.mem_map.mp among
    rfl

/-- The names and labels of the accelerator readings are distinct exactly if no accelerator
reports two metrics that are written under one name. -/
theorem nodup_readingHeads_iff :
    ((readingPlaces replicas).map readingHead).Nodup ↔
      ∀ load ∈ replicas, ∀ readings ∈ load.accelerators.values, WrittenApart readings.keys := by
  rw [List.nodup_map_iff_inj_on (nodup_readingPlaces distinct)]
  constructor
  · intro injective load among readings held first firstRead second secondRead same
    obtain ⟨⟨accelerator, _⟩, entry, rfl⟩ := List.mem_map.mp held
    have found := SortedMap.mem_entries_iff.mp entry
    have places := injective (first, load, accelerator)
      (mem_readingPlaces.mpr ⟨among, _, found, firstRead⟩) (second, load, accelerator)
      (mem_readingPlaces.mpr ⟨among, _, found, secondRead⟩)
    have heads : readingHead (first, load, accelerator) =
        readingHead (second, load, accelerator) := by
      simp only [readingHead, same]
    exact congrArg Prod.fst (places heads)
  · rintro apart ⟨first, load, accelerator⟩ firstPlaced ⟨second, other, another⟩ secondPlaced same
    simp only [readingHead, Prod.mk.injEq, accelerator_inj, List.cons.injEq, true_and,
      and_true] at same
    obtain ⟨name, replica, -, rfl⟩ := same
    obtain ⟨among, readings, held, firstRead⟩ := mem_readingPlaces.mp firstPlaced
    obtain ⟨otherAmong, others, otherHeld, secondRead⟩ := mem_readingPlaces.mp secondPlaced
    obtain rfl : load = other := List.inj_on_of_nodup_map distinct among otherAmong replica
    obtain rfl : readings = others := Option.some_inj.mp (held.symm.trans otherHeld)
    have value := List.mem_map_of_mem (f := Prod.snd) (SortedMap.mem_entries_iff.mpr held)
    rw [apart load among readings value first firstRead second secondRead name]

end Accelerators

/-! ## All samples -/

/-- The names of the gauges of the controller, which have no labels. -/
def gaugeHeads : List (String × List Label) :=
  [("tarn_target_replicas", []), ("tarn_running_replicas", []), ("tarn_pending_allocations", []),
    ("tarn_aggregate_load", [])]

/-- The names and the labels of the loads of replicas. -/
def loadHeads (replicas : List ReplicaLoad) : List (String × List Label) :=
  replicas.map fun load =>
    ("tarn_replica_load", [("replica_id", load.replica), ("host", load.host)])

/-- The names and the labels of the error rates of models. -/
def errorRateHeads (models : List ModelReport) : List (String × List Label) :=
  models.map fun report => ("tarn_model_error_rate", [("model", report.model)])

/-- The names and the labels of the latencies of models. -/
def latencyHeads (models : List ModelReport) : List (String × List Label) :=
  models.flatMap fun report => ["0.5", "0.95", "0.99"].map fun quantile =>
    ("tarn_model_latency_ms", [("model", report.model), ("quantile", quantile)])

theorem sampleHeads_eq (replicas : List ReplicaLoad) (models : List ModelReport) :
    sampleHeads replicas models =
      gaugeHeads ++ loadHeads replicas ++ (readingPlaces replicas).map readingHead ++
        errorRateHeads models ++ latencyHeads models := by
  simp [sampleHeads, gaugeHeads, loadHeads, readingPlaces, readingHead, errorRateHeads,
    latencyHeads, List.map_flatMap, Function.comp_def]

theorem nodup_loadHeads {replicas : List ReplicaLoad}
    (distinct : (replicas.map ReplicaLoad.replica).Nodup) : (loadHeads replicas).Nodup := by
  apply List.Nodup.of_map fun head => (head.2.lookup "replica_id").getD ""
  simpa [loadHeads, Function.comp_def] using distinct

section Models

variable {models : List ModelReport} (distinct : (models.map ModelReport.model).Nodup)
include distinct

theorem nodup_errorRateHeads : (errorRateHeads models).Nodup := by
  apply List.Nodup.of_map fun head => (head.2.lookup "model").getD ""
  simpa [errorRateHeads, Function.comp_def] using distinct

theorem nodup_latencyHeads : (latencyHeads models).Nodup := by
  apply nodup_flatMap_of_key (fun head => (head.2.lookup "model").getD "") distinct
  · intro report _
    apply List.Nodup.of_map fun head => (head.2.lookup "quantile").getD ""
    simp [List.lookup_cons]
  · intro report head among
    obtain ⟨quantile, -, rfl⟩ := List.mem_map.mp among
    rfl

end Models

/-- Lists of samples are joined without repetitions if they have no name in common. -/
theorem nodup_append_of_names {first second : List (String × List Label)}
    (firstDistinct : first.Nodup) (secondDistinct : second.Nodup)
    (names : ∀ head ∈ first, ∀ other ∈ second, head.1 ≠ other.1) : (first ++ second).Nodup := by
  rw [List.nodup_append]
  refine ⟨firstDistinct, secondDistinct, ?_⟩
  intro head among other otherAmong same
  exact names head among other otherAmong (congrArg Prod.fst same)

theorem name_gauges_loads {replicas : List ReplicaLoad} {head : String × List Label}
    (among : head ∈ gaugeHeads ++ loadHeads replicas) : head.1 ∈ namesBefore := by
  have gauges : ∀ head ∈ gaugeHeads, head.1 ∈ namesBefore := by decide
  have load : "tarn_replica_load" ∈ namesBefore := by decide
  rcases List.mem_append.mp among with gauge | replica
  · exact gauges head gauge
  · obtain ⟨_, -, rfl⟩ := List.mem_map.mp replica
    exact load

/-- With distinct replicas and distinct models, only the accelerator readings can repeat a name with
its labels. -/
theorem nodup_sampleHeads_iff {replicas : List ReplicaLoad} {models : List ModelReport}
    (replicaNames : (replicas.map ReplicaLoad.replica).Nodup)
    (modelNames : (models.map ModelReport.model).Nodup) :
    (sampleHeads replicas models).Nodup ↔
      ∀ load ∈ replicas, ∀ readings ∈ load.accelerators.values, WrittenApart readings.keys := by
  rw [← nodup_readingHeads_iff replicaNames, sampleHeads_eq]
  have accelerator : ∀ head ∈ (readingPlaces replicas).map readingHead,
      ∃ metric, head.1 = "tarn_gpu_" ++ metricName metric := by
    intro head among
    obtain ⟨place, -, rfl⟩ := List.mem_map.mp among
    exact ⟨place.1, rfl⟩
  have errorRate : ∀ head ∈ errorRateHeads models, head.1 = "tarn_model_error_rate" := by
    intro head among
    obtain ⟨report, -, rfl⟩ := List.mem_map.mp among
    rfl
  have latency : ∀ head ∈ latencyHeads models, head.1 = "tarn_model_latency_ms" := by
    intro head among
    obtain ⟨report, -, among⟩ := List.mem_flatMap.mp among
    obtain ⟨quantile, -, rfl⟩ := List.mem_map.mp among
    rfl
  have leading : ∀ head ∈ gaugeHeads ++ loadHeads replicas ++
      (readingPlaces replicas).map readingHead, head.1 ∉ namesAfter := by
    intro head among after
    rcases List.mem_append.mp among with before | reading
    · exact notMem_namesAfter _ (name_gauges_loads before) after
    · obtain ⟨metric, name⟩ := accelerator head reading
      exact ne_accelerator (List.mem_append_right _ after) metric name
  constructor
  · intro distinct
    exact distinct.of_append_left.of_append_left.of_append_right
  · intro readings
    have loads := nodup_loadHeads replicaNames
    refine nodup_append_of_names (nodup_append_of_names (nodup_append_of_names
      (nodup_append_of_names (by decide) loads ?loads) readings ?readings)
        (nodup_errorRateHeads modelNames) ?errorRates) (nodup_latencyHeads modelNames) ?latencies
    case loads =>
      have gauges : ∀ head ∈ gaugeHeads, head.1 ≠ "tarn_replica_load" := by decide
      intro head gauge other among
      obtain ⟨load, -, rfl⟩ := List.mem_map.mp among
      exact gauges head gauge
    case readings =>
      intro head among other reading
      obtain ⟨metric, name⟩ := accelerator other reading
      rw [name]
      exact ne_accelerator (List.mem_append_left _ (name_gauges_loads among)) metric
    case errorRates =>
      intro head among other report same
      rw [errorRate other report] at same
      exact leading head among (by rw [same]; decide)
    case latencies =>
      intro head among other report same
      rw [latency other report] at same
      rcases List.mem_append.mp among with before | rate
      · exact leading head before (by rw [same]; decide)
      · rw [errorRate head rate] at same
        exact absurd same (by decide)

/-! ## Uniqueness -/

/-- The written text declares each family by as many type lines as help lines, and every sample
belongs to a declared family. Each family is declared once exactly if no two of the metrics that
accelerators report are written under one name. No two samples belong to one series exactly if this
holds of each accelerator by itself. -/
theorem written_once_iff (gauges : FleetGauges) {replicas : List ReplicaLoad}
    {models : List ModelReport} (replicaNames : (replicas.map ReplicaLoad.replica).Nodup)
    (modelNames : (models.map ModelReport.model).Nodup) :
    let text := renderExposition gauges replicas models
    helpFamilies text = typeFamilies text ∧
      (∀ sample ∈ readExposition text, sample.name ∈ helpFamilies text) ∧
      ((helpFamilies text).Nodup ↔ WrittenApart (acceleratorMetrics replicas)) ∧
      ((readExposition text).Pairwise (fun first second => ¬first.IsSameSeries second) ↔
        ∀ load ∈ replicas, ∀ readings ∈ load.accelerators.values, WrittenApart readings.keys) := by
  intro text
  have help : helpFamilies text = (families gauges replicas models).map Family.name :=
    helpFamilies_renderExposition gauges replicas models
  have type : typeFamilies text = (families gauges replicas models).map Family.name :=
    typeFamilies_renderExposition gauges replicas models
  refine ⟨help.trans type.symm, ?declared, ?once, ?apart⟩
  case declared =>
    intro sample among
    have head := List.mem_map_of_mem (f := fun sample => (sample.name, sample.labels)) among
    rw [heads_readExposition, ← heads_families gauges] at head
    obtain ⟨rendered, among, same⟩ := List.mem_map.mp head
    obtain ⟨family, written, among⟩ := List.mem_flatMap.mp among
    obtain ⟨name, -⟩ := Prod.mk.inj same
    rw [← name, name_of_mem_samples written among, help]
    exact List.mem_map_of_mem written
  case once => rw [help, map_name_families, nodup_familyNames_iff]
  case apart =>
    exact (unique_series_iff gauges replicas models).trans
      (nodup_sampleHeads_iff replicaNames modelNames)

/-- A replica whose only accelerator reports the given metrics. -/
def reporting (replica : String) (metrics : List String) : ReplicaLoad where
  replica := replica
  host := "10.0.0.1"
  load := 0
  queueDepth := 0
  accelerators := .ofList [("0", .ofList (metrics.map (·, 1)))]

/-- Two replicas that report one metric share its family, also where its name is rewritten. -/
theorem shared_metric_written_once :
    let replicas := [reporting "a" ["clock:sm", "utilization"], reporting "b" ["clock:sm"]]
    let models : List ModelReport := [⟨"m", ⟨0, 0, 0⟩, 0, 0, 0⟩]
    let text := renderExposition {} replicas models
    (replicas.map ReplicaLoad.replica).Nodup ∧ (models.map ModelReport.model).Nodup ∧
      (helpFamilies text).Nodup ∧
      (readExposition text).Pairwise fun first second => ¬first.IsSameSeries second := by
  intro replicas models text
  have replicaNames : (replicas.map ReplicaLoad.replica).Nodup := by decide
  have modelNames : (models.map ModelReport.model).Nodup := by decide
  obtain ⟨-, -, once, apart⟩ := written_once_iff {} replicaNames modelNames
  exact ⟨replicaNames, modelNames, once.mpr (by decide), apart.mpr (by decide)⟩

/-- Metrics of two replicas that are written under one name give a family that is declared
twice. -/
theorem family_declared_twice :
    let replicas := [reporting "a" ["clock:sm"], reporting "b" ["clock_sm"]]
    (replicas.map ReplicaLoad.replica).Nodup ∧
      (helpFamilies (renderExposition {} replicas [])).count "tarn_gpu_clock_sm" = 2 ∧
      (typeFamilies (renderExposition {} replicas [])).count "tarn_gpu_clock_sm" = 2 := by
  intro replicas
  have names : (familyNames replicas).count "tarn_gpu_clock_sm" = 2 := by decide
  refine ⟨by decide, ?_, ?_⟩
  · rwa [helpFamilies_renderExposition, map_name_families]
  · rwa [typeFamilies_renderExposition, map_name_families]

end Fleet.Telemetry
