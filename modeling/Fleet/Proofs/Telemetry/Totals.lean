import Fleet.Proofs.Telemetry.Reports
import Mathlib.Data.List.ReduceOption

/-!
# What a replica adds to the counts

The counters that a server reports are cumulative, and a scrape adds their growth since the last
scrape. A counter that is missing from a scrape reads as zero, there and as the start of the next
growth. So each stretch of scrapes in which a counter is never missing and never goes back adds its
last count; a server whose counters go on after a gap has all its requests counted again. A scrape
that failed is no gap, since it leaves the last counters as they are.
-/

namespace Fleet.Telemetry

/-- A sum of counts. -/
def total (counts : List UInt64) : UInt64 := counts.foldr (· + ·) 0

/-! ## Reading counters -/

/-- The counter of one kind. -/
def ModelCounters.count (counters : ModelCounters) : CounterKind → UInt64
  | .success => counters.success
  | .failure => counters.failure
  | .inferences => counters.inferences
  | .microseconds => counters.microseconds

/-- The amounts of one counter of a model in some samples, one for each version that reports it. -/
def amounts (model : String) (kind : CounterKind) (samples : List Sample) : List UInt64 :=
  (samples.filterMap Sample.count?).filterMap fun (name, other, amount) =>
    if name = model ∧ other = kind then some amount else none

/-- What some samples report of one counter of a model. -/
def reported? (model : String) (kind : CounterKind) (samples : List Sample) : Option UInt64 :=
  if (amounts model kind samples).isEmpty then none else some (total (amounts model kind samples))

@[simp]
theorem count_default (kind : CounterKind) : ({} : ModelCounters).count kind = 0 := by
  cases kind <;> rfl

theorem count_increase (counters : ModelCounters) (kind other : CounterKind) (amount : UInt64) :
    (counters.increase other amount).count kind =
      counters.count kind + if other = kind then amount else 0 := by
  cases kind <;> cases other <;> simp [ModelCounters.increase, ModelCounters.count]

/-- The counters of a model; zero where there are none. -/
def countersOf (counters : SortedMap ModelCounters) (model : String) : ModelCounters :=
  (counters.get? model).getD {}

theorem count_countersOf_foldl (counts : List (String × CounterKind × UInt64))
    (counters : SortedMap ModelCounters) (model : String) (kind : CounterKind) :
    (countersOf (counts.foldl (fun counters (name, other, amount) =>
        counters.update name {} (·.increase other amount)) counters) model).count kind =
      (countersOf counters model).count kind +
        total (counts.filterMap fun (name, other, amount) =>
          if name = model ∧ other = kind then some amount else none) := by
  induction counts generalizing counters with
  | nil => simp [total]
  | cons count rest ih =>
      obtain ⟨name, other, amount⟩ := count
      rw [List.foldl_cons, ih, countersOf, SortedMap.get?_update]
      by_cases here : model = name
      · subst here
        by_cases same : other = kind
        · simp [count_increase, same, total, countersOf, UInt64.add_assoc]
        · simp [count_increase, same, countersOf]
      · simp [here, Ne.symm here, countersOf]

/-- A counter is the sum of what is reported of it. -/
theorem count_eq_total (samples : List Sample) (model : String) (kind : CounterKind) :
    (countersOf (countersOfSamples samples) model).count kind =
      total (amounts model kind samples) := by
  have empty : countersOf ∅ model = {} := rfl
  rw [countersOfSamples, count_countersOf_foldl, empty, count_default, UInt64.zero_add]
  rfl

/-- A counter that no sample reports reads as zero. -/
theorem count_countersOfSamples (samples : List Sample) (model : String) (kind : CounterKind) :
    (countersOf (countersOfSamples samples) model).count kind =
      (reported? model kind samples).getD 0 := by
  rw [count_eq_total, reported?]
  split
  · next none =>
      rw [List.isEmpty_iff.mp none]
      rfl
  · rfl

/-! ## Counts after a report -/

/-- The requests for a model, and the failed ones of them. -/
def Aggregator.countsOf (aggregator : Aggregator) (model : String) : RequestCounts :=
  (aggregator.counts.get? model).getD (0, 0)

/-- A counter that is missing has not grown. -/
theorem growth_zero (before : UInt64) : ModelCounters.growth before 0 = 0 := by
  simp only [ModelCounters.growth]
  split
  · next less => rw [UInt64.le_zero_iff.mp less, UInt64.sub_self]
  · rfl

/-- Of the models that have grown, at most one has a given name. -/
theorem filter_growthSince {before now : SortedMap ModelCounters} {model : String}
    {growth : ModelCounters}
    (grown : (countersOf now model).since (countersOf before model) = growth) :
    (Aggregator.growthSince before now).filter (·.1 = model) =
      if growth.requests = 0 ∧ growth.inferences = 0 then [] else [(model, growth)] := by
  rw [Aggregator.growthSince, List.filter_comm, List.filter_map]
  change List.filter _ (List.map _ (now.entries.filter (·.1 = model))) = _
  rw [now.filter_entries]
  cases found : now.get? model with
  | none =>
      have still : growth = {} := by
        rw [← grown]
        simp [countersOf, found, ModelCounters.since, growth_zero]
      rw [still]
      rfl
  | some counters =>
      have same : countersOf now model = counters := by simp [countersOf, found]
      have start : counters.since ((before.get? model).getD {}) = growth := same ▸ grown
      simp only [Option.toList_some, List.map_cons, List.map_nil, start]
      by_cases idle : growth.requests = 0 ∧ growth.inferences = 0
      · simp [idle]
      · rw [List.filter_cons_of_pos (by simpa [imp_iff_not_or] using idle), if_neg idle]
        rfl

/-- What is known of the requests for a model. -/
def Aggregator.activityOf (aggregator : Aggregator) (model : String) : ModelActivity :=
  (aggregator.models.get? model).getD {}

/-- The activity after a report of a server: nothing is added if there are no requests and no
inferences in the growth. -/
def ModelActivity.follow (activity : ModelActivity) (growth : ModelCounters) : ModelActivity :=
  if growth.requests = 0 ∧ growth.inferences = 0 then activity else activity.absorb growth

theorem Aggregator.countsOf_eq (aggregator : Aggregator) (model : String) :
    aggregator.countsOf model =
      ((aggregator.activityOf model).requests, (aggregator.activityOf model).errors) := by
  rw [countsOf, counts, SortedMap.get?_mapValues, activityOf]
  cases aggregator.models.get? model <;> rfl

/-- A report adds the growth of each model since the last one, also of one that it does not name. -/
theorem activityOf_ingest (aggregator : Aggregator) (replica host text model : String) :
    (aggregator.ingest replica host text).1.activityOf model =
      (aggregator.activityOf model).follow
        ((countersOf (countersOfSamples (readExposition text)) model).since
          (countersOf ((aggregator.replicas.get? replica).getD {}).counters model)) := by
  have models : (aggregator.ingest replica host text).1.models =
      (Aggregator.growths aggregator.replicas replica text).foldl
        (fun models growth => models.update growth.1 {} (ModelActivity.absorb · growth.2))
        aggregator.models := by
    simp only [Aggregator.ingest]
    exact (List.foldl_hom Aggregator.models fun reached growth => rfl).symm
  have found := SortedMap.getD_get?_foldl_update {} (fun growth => (ModelActivity.absorb · growth))
    (Aggregator.growths aggregator.replicas replica text) aggregator.models model
  rw [Aggregator.activityOf, models, found, Aggregator.growths,
    filter_growthSince rfl, ModelActivity.follow]
  split <;> rfl

/-- What a growth adds to the counts: nothing, if there are no requests and no inferences in it. -/
def RequestCounts.absorb (growth : ModelCounters) (counts : RequestCounts) : RequestCounts :=
  if growth.requests = 0 ∧ growth.inferences = 0 then counts else .add growth counts

theorem countsOf_ingest (aggregator : Aggregator) (replica host text model : String) :
    (aggregator.ingest replica host text).1.countsOf model =
      .absorb ((countersOf (countersOfSamples (readExposition text)) model).since
          (countersOf ((aggregator.replicas.get? replica).getD {}).counters model))
        (aggregator.countsOf model) := by
  rw [Aggregator.countsOf_eq, activityOf_ingest, Aggregator.countsOf_eq, RequestCounts.absorb,
    ModelActivity.follow]
  split <;> rfl

/-! ## Stretches -/

/-- What a counter grows by over some readings, from a first one on. -/
def growthOver (before : UInt64) : List UInt64 → UInt64
  | [] => 0
  | now :: rest => ModelCounters.growth before now + growthOver now rest

/-- Of each stretch of reports in which a counter is never missing and never goes back, the last
count. -/
def lastCounts : List (Option UInt64) → List UInt64
  | [] => []
  | none :: rest => lastCounts rest
  | some count :: rest =>
      if rest.head?.join.any (count ≤ ·) then lastCounts rest else count :: lastCounts rest

theorem growth_of_le {before now : UInt64} (grown : before ≤ now) :
    before + ModelCounters.growth before now = now := by
  rw [ModelCounters.growth, if_pos grown, UInt64.add_comm, UInt64.sub_add_cancel]

/-- Each stretch adds its last count. -/
theorem growthOver_reports (reports : List (Option UInt64)) :
    growthOver 0 (reports.map (·.getD 0)) = total (lastCounts reports) ∧
      ∀ count, count + growthOver count (reports.map (·.getD 0)) =
        total (lastCounts (some count :: reports)) := by
  induction reports with
  | nil => exact ⟨rfl, fun count => rfl⟩
  | cons report rest ih =>
      cases report with
      | none =>
          refine ⟨?_, ?_⟩
          · simp [growthOver, growth_zero, lastCounts, ih.1]
          · intro count
            simp [growthOver, growth_zero, lastCounts, ih.1, total]
      | some now =>
          have first : growthOver 0 ((some now :: rest).map (·.getD 0)) =
              total (lastCounts (some now :: rest)) := by
            rw [← ih.2 now]
            simp [growthOver, ModelCounters.growth]
          refine ⟨first, ?_⟩
          intro count
          by_cases grown : count ≤ now
          · have next : lastCounts (some count :: some now :: rest) =
                lastCounts (some now :: rest) := by
              rw [lastCounts]
              simp [grown]
            rw [next, ← ih.2 now]
            simp only [List.map_cons, Option.getD_some, growthOver]
            rw [← UInt64.add_assoc, growth_of_le grown]
          · have next : lastCounts (some count :: some now :: rest) =
                count :: lastCounts (some now :: rest) := by
              rw [lastCounts]
              simp [grown]
            rw [next]
            simp only [List.map_cons, Option.getD_some, growthOver, ModelCounters.growth,
              if_neg grown]
            rw [ih.2 now]
            rfl

/-- The last count that is reported; zero if none is. -/
def lastReport (reports : List (Option UInt64)) : UInt64 :=
  reports.reduceOption.getLast?.getD 0

/-- Whether a counter never goes back and, from its first report to its last one, is never
missing. -/
def Unbroken (reports : List (Option UInt64)) : Prop :=
  ∃ (before : Nat) (counts : List UInt64) (after : Nat),
    reports = List.replicate before none ++ (counts.map some ++ List.replicate after none) ∧
      counts.IsChain (· ≤ ·)

theorem lastCounts_replicate_none_append (before : Nat) (reports : List (Option UInt64)) :
    lastCounts (List.replicate before none ++ reports) = lastCounts reports := by
  induction before with
  | zero => rfl
  | succ before ih => simpa [List.replicate_succ, lastCounts] using ih

theorem lastCounts_of_isChain {counts : List UInt64} (ascending : counts.IsChain (· ≤ ·))
    (after : Nat) :
    lastCounts (counts.map some ++ List.replicate after none) = counts.getLast?.toList := by
  induction counts with
  | nil => simpa [lastCounts] using lastCounts_replicate_none_append after []
  | cons count rest ih =>
      have later := ih ascending.of_cons
      rw [List.map_cons, List.cons_append, lastCounts, later]
      cases rest with
      | nil => cases after <;> simp [List.replicate_succ]
      | cons next rest =>
          have grown : count ≤ next := (List.isChain_cons_cons.mp ascending).1
          simp [grown]

/-- A counter without gaps and setbacks has one stretch. -/
theorem total_lastCounts_of_unbroken {reports : List (Option UInt64)} (whole : Unbroken reports) :
    total (lastCounts reports) = lastReport reports := by
  obtain ⟨before, counts, after, rfl, ascending⟩ := whole
  have reported : (counts.map some).reduceOption = counts := by
    simp [List.reduceOption, List.filterMap_map]
  simp only [lastCounts_replicate_none_append, lastCounts_of_isChain ascending, lastReport,
    List.reduceOption_append, List.reduceOption_replicate_none, reported, List.nil_append,
    List.append_nil]
  cases counts.getLast? with
  | none => rfl
  | some count => simp [total]

/-! ## Scrapes -/

/-- A scrape of a replica: the text that it gave, if it gave one. -/
structure Scrape where
  replica : String
  host : String
  text : Option String
  deriving DecidableEq

namespace Aggregator

/-- The aggregator after a scrape. -/
def take (aggregator : Aggregator) (scrape : Scrape) : Aggregator :=
  match scrape.text with
  | some text => (aggregator.ingest scrape.replica scrape.host text).1
  | none => aggregator.recordUnavailable scrape.replica scrape.host

/-- The counters of a model as of the last report of a replica. -/
def lastCounters (aggregator : Aggregator) (replica model : String) : ModelCounters :=
  countersOf ((aggregator.replicas.get? replica).getD {}).counters model

/-- What the scrapes of one replica, among others, add to the counts of a model. -/
def addedBy (replica model : String) : Aggregator → List Scrape → RequestCounts
  | _, [] => (0, 0)
  | aggregator, scrape :: rest =>
      let before := aggregator.countsOf model
      let after := (aggregator.take scrape).countsOf model
      let later := addedBy replica model (aggregator.take scrape) rest
      if scrape.replica = replica then (after.1 - before.1 + later.1, after.2 - before.2 + later.2)
      else later

end Aggregator

/-- The texts that a replica gave in some scrapes. -/
def textsOf (replica : String) (scrapes : List Scrape) : List String :=
  scrapes.filterMap fun scrape => if scrape.replica = replica then scrape.text else none

/-- What a replica reported of one counter of a model, in each scrape that gave a text. -/
def reportsOf (replica model : String) (kind : CounterKind) (scrapes : List Scrape) :
    List (Option UInt64) :=
  (textsOf replica scrapes).map fun text => reported? model kind (readExposition text)

section Scrapes

variable (aggregator : Aggregator) {replica : String} (model : String) {scrape : Scrape}

theorem lastCounters_take_of_ne (other : scrape.replica ≠ replica) :
    (aggregator.take scrape).lastCounters replica model =
      aggregator.lastCounters replica model := by
  have kept : (aggregator.take scrape).replicas.get? replica =
      aggregator.replicas.get? replica := by
    simp only [Aggregator.take]
    split
    · rw [Aggregator.ingest_replicas, SortedMap.get?_update_of_ne _ _ _ other.symm]
    · exact SortedMap.get?_update_of_ne _ _ _ other.symm
  rw [Aggregator.lastCounters, kept, Aggregator.lastCounters]

theorem lastCounters_take_of_none (failed : scrape.text = none) :
    (aggregator.take scrape).lastCounters replica model =
      aggregator.lastCounters replica model := by
  by_cases same : scrape.replica = replica
  · subst same
    simp only [Aggregator.take, failed, Aggregator.lastCounters, Aggregator.recordUnavailable,
      Aggregator.updateReplica, SortedMap.get?_update_self, Option.getD_some]
  · exact lastCounters_take_of_ne aggregator model same

theorem lastCounters_take_of_some {text : String} (gave : scrape.text = some text) :
    (aggregator.take scrape).lastCounters scrape.replica model =
      countersOf (countersOfSamples (readExposition text)) model := by
  simp only [Aggregator.take, gave, Aggregator.lastCounters, Aggregator.ingest_replicas,
    SortedMap.get?_update_self, Option.getD_some, ReplicaRecord.reported]

theorem countsOf_take_of_none (failed : scrape.text = none) :
    (aggregator.take scrape).countsOf model = aggregator.countsOf model := by
  simp only [Aggregator.take, failed]
  rfl

theorem countsOf_take_of_some {text : String} (gave : scrape.text = some text) :
    (aggregator.take scrape).countsOf model =
      .absorb ((countersOf (countersOfSamples (readExposition text)) model).since
          (aggregator.lastCounters scrape.replica model))
        (aggregator.countsOf model) := by
  simp only [Aggregator.take, gave]
  exact countsOf_ingest ..

end Scrapes

theorem absorb_requests (growth : ModelCounters) (counts : RequestCounts) :
    (RequestCounts.absorb growth counts).1 = counts.1 + growth.requests := by
  simp only [RequestCounts.absorb]
  split
  · next idle => rw [idle.1, UInt64.add_zero]
  · rfl

theorem growth_le (before now : UInt64) : ModelCounters.growth before now ≤ now := by
  simp only [ModelCounters.growth]
  split
  · next grown =>
      rw [UInt64.le_iff_toNat_le, UInt64.toNat_sub_of_le _ _ grown]
      omega
  · exact UInt64.le_refl now

/-- Where all requests can be counted, there are failed ones among none only if there are none. -/
theorem absorb_failure {now : ModelCounters}
    (counted : now.success.toNat + now.failure.toNat < UInt64.size) (before : ModelCounters)
    (counts : RequestCounts) :
    (RequestCounts.absorb (now.since before) counts).2 =
      counts.2 + ModelCounters.growth before.failure now.failure := by
  simp only [RequestCounts.absorb]
  split
  · next idle =>
      -- The sum does not wrap around, so that both of its parts are zero.
      have successes := UInt64.le_iff_toNat_le.mp (growth_le before.success now.success)
      have failures := UInt64.le_iff_toNat_le.mp (growth_le before.failure now.failure)
      have sum := congrArg UInt64.toNat idle.1
      simp only [ModelCounters.requests, ModelCounters.since, UInt64.toNat_add,
        UInt64.toNat_zero] at sum
      rw [Nat.mod_eq_of_lt (by simp only [UInt64.size] at counted; omega)] at sum
      have none : ModelCounters.growth before.failure now.failure = 0 := by
        apply UInt64.toNat_inj.mp
        rw [UInt64.toNat_zero]
        omega
      rw [none, UInt64.add_zero]
  · rfl

/-! ## Totals -/

section Totals

variable (replica model : String)

/-- A scrape that gave no report of the replica leaves what it adds to its later reports. -/
theorem addedBy_cons_of_other {aggregator : Aggregator} {scrape : Scrape}
    (silent : scrape.replica ≠ replica ∨ scrape.text = none) (rest : List Scrape) :
    aggregator.addedBy replica model (scrape :: rest) =
      (aggregator.take scrape).addedBy replica model rest := by
  simp only [Aggregator.addedBy]
  split
  · next same =>
      rcases silent with other | failed
      · exact absurd same other
      · rw [countsOf_take_of_none aggregator model failed]
        simp
  · rfl

/-- Whether all requests that a text reports for a model can be counted. -/
def CountsFit (model text : String) : Prop :=
  let counters := countersOf (countersOfSamples (readExposition text)) model
  counters.success.toNat + counters.failure.toNat < UInt64.size

instance : DecidablePred (CountsFit model) :=
  fun _ => inferInstanceAs (Decidable (_ < _))

/-- What a replica adds is the growth of its counters over its reports. -/
theorem addedBy_eq_growthOver (aggregator : Aggregator) (scrapes : List Scrape) :
    (aggregator.addedBy replica model scrapes).1 =
        growthOver (aggregator.lastCounters replica model).success
            ((reportsOf replica model .success scrapes).map (·.getD 0)) +
          growthOver (aggregator.lastCounters replica model).failure
            ((reportsOf replica model .failure scrapes).map (·.getD 0)) ∧
      ((∀ text ∈ textsOf replica scrapes, CountsFit model text) →
        (aggregator.addedBy replica model scrapes).2 =
          growthOver (aggregator.lastCounters replica model).failure
            ((reportsOf replica model .failure scrapes).map (·.getD 0))) := by
  induction scrapes generalizing aggregator with
  | nil => exact ⟨rfl, fun _ => rfl⟩
  | cons scrape rest ih =>
      have later := ih (aggregator.take scrape)
      by_cases silent : scrape.replica ≠ replica ∨ scrape.text = none
      · have texts : textsOf replica (scrape :: rest) = textsOf replica rest := by
          rcases silent with other | failed
          · simp [textsOf, other]
          · simp [textsOf, failed]
        have kept : (aggregator.take scrape).lastCounters replica model =
            aggregator.lastCounters replica model := by
          rcases silent with other | failed
          · exact lastCounters_take_of_ne aggregator model other
          · exact lastCounters_take_of_none aggregator model failed
        simpa only [addedBy_cons_of_other _ _ silent, reportsOf, texts, kept] using later
      · obtain ⟨same, text, gave⟩ :
            scrape.replica = replica ∧ ∃ text, scrape.text = some text := by
          simpa [Option.ne_none_iff_exists'] using silent
        subst same
        have texts : textsOf scrape.replica (scrape :: rest) =
            text :: textsOf scrape.replica rest := by
          simp [textsOf, gave]
        simp only [lastCounters_take_of_some _ _ gave] at later
        simp only [Aggregator.addedBy, if_pos, countsOf_take_of_some _ _ gave, reportsOf, texts,
          List.map_cons, growthOver, ← count_countersOfSamples]
        refine ⟨?_, ?_⟩
        · rw [later.1, absorb_requests, UInt64.add_comm (aggregator.countsOf model).1,
            UInt64.add_sub_cancel]
          simp only [ModelCounters.requests, ModelCounters.since, ModelCounters.count, reportsOf]
          ac_rfl
        · intro fits
          have first : CountsFit model text := fits text List.mem_cons_self
          have others : ∀ text ∈ textsOf scrape.replica rest, CountsFit model text :=
            fun text among => fits text (List.mem_cons_of_mem _ among)
          rw [later.2 others, absorb_failure first,
            UInt64.add_comm (aggregator.countsOf model).2, UInt64.add_sub_cancel]
          rfl

end Totals

/-- A replica whose counters start at zero adds to the counts of a model the last count of each
stretch in which the counter is never missing from a report and never goes back. So it adds the
last report where there is one stretch. -/
theorem added_stretch_by_stretch (aggregator : Aggregator) (replica model : String)
    (scrapes : List Scrape) (fresh : aggregator.lastCounters replica model = {})
    (fits : ∀ text ∈ textsOf replica scrapes, CountsFit model text) :
    let successes := reportsOf replica model .success scrapes
    let failures := reportsOf replica model .failure scrapes
    aggregator.addedBy replica model scrapes =
        (total (lastCounts successes) + total (lastCounts failures),
          total (lastCounts failures)) ∧
      (Unbroken successes → Unbroken failures →
        aggregator.addedBy replica model scrapes =
          (lastReport successes + lastReport failures, lastReport failures)) := by
  intro successes failures
  have added : aggregator.addedBy replica model scrapes =
      (total (lastCounts successes) + total (lastCounts failures),
        total (lastCounts failures)) := by
    obtain ⟨requests, errors⟩ := addedBy_eq_growthOver replica model aggregator scrapes
    have errors := errors fits
    rw [fresh, (growthOver_reports _).1] at requests errors
    rw [(growthOver_reports _).1] at requests
    exact Prod.ext requests errors
  refine ⟨added, ?_⟩
  intro wholeSuccesses wholeFailures
  rw [added, total_lastCounts_of_unbroken wholeSuccesses,
    total_lastCounts_of_unbroken wholeFailures]

/-- What a server says that had a hundred successful requests and ten failed ones. -/
def hundredAndTen : String :=
  "nv_inference_request_success\x7bmodel=\"m\"\x7d 100\n" ++
    "nv_inference_request_failure\x7bmodel=\"m\"\x7d 10\n"

/-- The same counters twice, with another scrape in between. -/
def twiceAround (between : Option String) : List Scrape :=
  [⟨"r", "h", some hundredAndTen⟩, ⟨"r", "h", between⟩, ⟨"r", "h", some hundredAndTen⟩]

theorem reported?_hundredAndTen :
    reported? "m" .success (readExposition hundredAndTen) = some 100 ∧
      reported? "m" .failure (readExposition hundredAndTen) = some 10 := by
  decide +kernel

theorem countsFit_hundredAndTen : CountsFit "m" hundredAndTen := by decide +kernel

theorem reports_around_empty_text :
    reportsOf "r" "m" .success (twiceAround (some "")) = [some 100, none, some 100] ∧
      reportsOf "r" "m" .failure (twiceAround (some "")) = [some 10, none, some 10] := by
  have empty : ∀ kind, reported? "m" kind (readExposition "") = none := fun _ => rfl
  simp [reportsOf, textsOf, twiceAround, reported?_hundredAndTen, empty]

theorem countsFit_around_empty_text :
    ∀ text ∈ textsOf "r" (twiceAround (some "")), CountsFit "m" text := by
  have empty : CountsFit "m" "" := by decide
  simp [textsOf, twiceAround, countsFit_hundredAndTen, empty]

/-- A text without the counters makes two stretches, a scrape that failed does not. -/
theorem counted_twice_around_empty_text :
    Aggregator.addedBy "r" "m" {} (twiceAround (some "")) = (220, 20) ∧
      Aggregator.addedBy "r" "m" {} (twiceAround none) = (110, 10) := by
  refine ⟨?_, ?_⟩
  · obtain ⟨successes, failures⟩ := reports_around_empty_text
    obtain ⟨added, -⟩ :=
      added_stretch_by_stretch {} "r" "m" (twiceAround (some "")) rfl countsFit_around_empty_text
    rw [added, successes, failures]
    decide
  · have fits : ∀ text ∈ textsOf "r" (twiceAround none), CountsFit "m" text := by
      simp [textsOf, twiceAround, countsFit_hundredAndTen]
    have successes : reportsOf "r" "m" .success (twiceAround none) = [some 100, some 100] := by
      simp [reportsOf, textsOf, twiceAround, reported?_hundredAndTen]
    have failures : reportsOf "r" "m" .failure (twiceAround none) = [some 10, some 10] := by
      simp [reportsOf, textsOf, twiceAround, reported?_hundredAndTen]
    obtain ⟨-, added⟩ := added_stretch_by_stretch {} "r" "m" (twiceAround none) rfl fits
    rw [successes, failures] at added
    exact (added ⟨0, [100, 100], 0, rfl, by simp⟩ ⟨0, [10, 10], 0, rfl, by simp⟩).trans (by decide)

/-- Counters that never go back are counted twice if they are missing from a report. -/
theorem last_report_exceeded :
    ¬∀ (aggregator : Aggregator) (replica model : String) (scrapes : List Scrape),
      aggregator.lastCounters replica model = {} →
      (∀ text ∈ textsOf replica scrapes, CountsFit model text) →
      (reportsOf replica model .success scrapes).reduceOption.IsChain (· ≤ ·) →
      (reportsOf replica model .failure scrapes).reduceOption.IsChain (· ≤ ·) →
      aggregator.addedBy replica model scrapes =
        (lastReport (reportsOf replica model .success scrapes) +
            lastReport (reportsOf replica model .failure scrapes),
          lastReport (reportsOf replica model .failure scrapes)) := by
  intro equal
  obtain ⟨successes, failures⟩ := reports_around_empty_text
  have counted := equal {} "r" "m" (twiceAround (some "")) rfl countsFit_around_empty_text
    (by rw [successes]; simp [List.reduceOption]) (by rw [failures]; simp [List.reduceOption])
  have requests := (addedBy_eq_growthOver "r" "m" {} (twiceAround (some ""))).1
  rw [counted, successes, failures] at requests
  revert requests
  decide

end Fleet.Telemetry
