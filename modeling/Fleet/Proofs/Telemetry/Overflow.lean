import Fleet.Proofs.Telemetry.Totals
import Mathlib.Data.List.Fold
import Mathlib.Data.List.Induction
import Mathlib.Logic.Function.Basic

/-!
# Counts beyond a word

Counts are words of 64 bits, and a server may report as much as a word holds of any one counter. So
a sum over the versions of a model, the requests of a scrape and the sum over the queues of a
replica are what is left of the exact sum in a word. They are exact as long as that sum fits. What
is added up over a run is compared with a ledger of exact numbers: it agrees with the ledger as long
as all requests in the ledger fit, and a model has no more errors than requests as long as it does.
-/

namespace Fleet.Telemetry

/-! ## Words for numbers -/

/-- A word that stands for a number: what is left of the number in a word, which is the number
itself as long as it fits. -/
structure Wraps (word : UInt64) (number : Nat) : Prop where
  remainder : word.toNat = number % UInt64.size
  exact_iff : word.toNat = number ↔ number < UInt64.size

theorem wraps_of_remainder {word : UInt64} {number : Nat}
    (remainder : word.toNat = number % UInt64.size) : Wraps word number := by
  refine ⟨remainder, ?_⟩
  constructor
  · intro exact
    rw [← exact]
    exact word.toNat_lt
  · intro fits
    rw [remainder, Nat.mod_eq_of_lt fits]

/-- The exact sum of some counts. -/
def exactSum (counts : List UInt64) : Nat :=
  counts.foldr (fun count sum => count.toNat + sum) 0

theorem wraps_total (counts : List UInt64) : Wraps (total counts) (exactSum counts) := by
  apply wraps_of_remainder
  induction counts with
  | nil => rfl
  | cons count rest ih =>
      change (count + total rest).toNat = (count.toNat + exactSum rest) % UInt64.size
      rw [UInt64.toNat_add, ih]
      exact Nat.add_mod_mod ..

theorem wraps_requests (counters : ModelCounters) :
    Wraps counters.requests (counters.success.toNat + counters.failure.toNat) :=
  wraps_of_remainder (UInt64.toNat_add ..)

/-! ## What a text reports -/

/-- The exact sum over its versions of what a text reports of one counter of a model. -/
def exactCount (model : String) (kind : CounterKind) (text : String) : Nat :=
  exactSum (amounts model kind (readExposition text))

theorem wraps_count (model : String) (kind : CounterKind) (text : String) :
    Wraps ((countersOf (countersOfSamples (readExposition text)) model).count kind)
      (exactCount model kind text) := by
  rw [count_eq_total]
  exact wraps_total _

/-- The lengths of the queues in some samples: finite numbers that are not negative, without their
fractions. -/
def queueLengths (samples : List Sample) : List UInt64 :=
  (samples.filter fun sample =>
    sample.name == "nv_inference_pending_request_count" && sample.value.isFinite &&
      !sample.value.lt 0).map fun sample => sample.value.toWord

theorem toWord_zero : (0 : Binary64).toWord = 0 := by decide +kernel

theorem toWord_max_zero {value : Binary64} (finite : value.isFinite = true) :
    (value.max 0).toWord = if value.lt 0 then 0 else value.toWord := by
  cases value with
  | notANumber pattern => cases finite
  | infinite negative => cases finite
  | finite number =>
      change (if (Binary64.finite number).lt 0 then (0 : Binary64) else .finite number).toWord = _
      by_cases negative : (Binary64.finite number).lt 0
      · rw [if_pos negative, if_pos negative, toWord_zero]
      · rw [if_neg negative, if_neg negative]

/-- A negative length counts as zero, so that it may as well be left out. -/
theorem queueDepthOfSamples_eq (samples : List Sample) :
    queueDepthOfSamples samples = total (queueLengths samples) := by
  rw [queueDepthOfSamples, List.foldl_eq_foldr]
  change total _ = _
  induction samples with
  | nil => rfl
  | cons sample rest ih =>
      by_cases counted : sample.name == "nv_inference_pending_request_count" &&
          sample.value.isFinite
      · rw [Bool.and_eq_true] at counted
        by_cases negative : sample.value.lt 0
        · simp_all [queueLengths, total, toWord_max_zero]
        · simp_all [queueLengths, total, toWord_max_zero]
      · simp_all [queueLengths]

/-! ## The ledger -/

/-- The growth of an exact count; one that went backwards started again from zero. -/
def exactGrowth (before now : Nat) : Nat :=
  if before ≤ now then now - before else now

theorem toNat_growth (before now : UInt64) :
    (ModelCounters.growth before now).toNat = exactGrowth before.toNat now.toNat := by
  simp only [ModelCounters.growth, exactGrowth, UInt64.le_iff_toNat_le]
  split
  · next grown => exact UInt64.toNat_sub_of_le _ _ (UInt64.le_iff_toNat_le.mpr grown)
  · rfl

theorem le_add_exactGrowth (before now : Nat) : now ≤ before + exactGrowth before now := by
  simp only [exactGrowth]
  split <;> omega

/-- The successful and the failed requests of some counters as numbers. -/
def ModelCounters.answered (counters : ModelCounters) : Nat × Nat :=
  (counters.success.toNat, counters.failure.toNat)

theorem ModelCounters.answered_eq {counters : ModelCounters} {successes failures : Nat}
    (success : (counters.count .success).toNat = successes)
    (failure : (counters.count .failure).toNat = failures) :
    counters.answered = (successes, failures) :=
  Prod.ext success failure

/-- What was added to the requests and to the errors, in exact numbers. -/
def exactGrowths (before now : Nat × Nat) : Nat × Nat :=
  (exactGrowth before.1 now.1 + exactGrowth before.2 now.2, exactGrowth before.2 now.2)

/-- A growth is absorbed exactly if all requests fit with it. -/
theorem absorb_exact (before now : ModelCounters) (counts : RequestCounts)
    (counted : now.answered.1 + now.answered.2 < UInt64.size)
    (errors : counts.2.toNat ≤ counts.1.toNat)
    (fits : counts.1.toNat + (exactGrowths before.answered now.answered).1 < UInt64.size) :
    (RequestCounts.absorb (now.since before) counts).1.toNat =
        counts.1.toNat + (exactGrowths before.answered now.answered).1 ∧
      (RequestCounts.absorb (now.since before) counts).2.toNat =
        counts.2.toNat + (exactGrowths before.answered now.answered).2 := by
  have requests : (now.since before).requests.toNat =
      (exactGrowths before.answered now.answered).1 := by
    simp only [exactGrowths, ModelCounters.answered, ← toNat_growth] at fits ⊢
    exact (wraps_requests (now.since before)).exact_iff.mpr (Nat.lt_of_le_of_lt
      (Nat.le_add_left ..) fits)
  refine ⟨?_, ?_⟩
  · rw [absorb_requests, UInt64.toNat_add, requests]
    exact Nat.mod_eq_of_lt fits
  · rw [absorb_failure counted, UInt64.toNat_add, toNat_growth]
    simp only [exactGrowths, UInt64.size] at fits
    exact Nat.mod_eq_of_lt (by simp only [ModelCounters.answered] at fits; omega)

/-- The requests for one model in exact numbers: the successful and the failed ones that each
replica reported last, and what all replicas have added. -/
structure Ledger where
  last : String → Nat × Nat := fun _ => (0, 0)
  requests : Nat := 0
  errors : Nat := 0

namespace Ledger

variable {model : String}

/-- The ledger after a replica reported its successful and its failed requests. -/
def report (ledger : Ledger) (replica : String) (counts : Nat × Nat) : Ledger where
  last := Function.update ledger.last replica counts
  requests := ledger.requests + (exactGrowths (ledger.last replica) counts).1
  errors := ledger.errors + (exactGrowths (ledger.last replica) counts).2

theorem last_report_self (ledger : Ledger) (replica : String) (counts : Nat × Nat) :
    (ledger.report replica counts).last replica = counts :=
  Function.update_self ..

theorem last_report_of_ne (ledger : Ledger) {replica other : String} (different : other ≠ replica)
    (counts : Nat × Nat) : (ledger.report replica counts).last other = ledger.last other :=
  Function.update_of_ne different ..

/-- The ledger of a model after a scrape. -/
def take (model : String) (ledger : Ledger) (scrape : Scrape) : Ledger :=
  match scrape.text with
  | none => ledger
  | some text =>
      ledger.report scrape.replica
        (exactCount model .success text, exactCount model .failure text)

/-- The ledger of a model after some scrapes. -/
def ofScrapes (model : String) (scrapes : List Scrape) : Ledger := scrapes.foldl (take model) {}

theorem requests_le_take (ledger : Ledger) (scrape : Scrape) :
    ledger.requests ≤ (ledger.take model scrape).requests := by
  simp only [take]
  split
  · exact Nat.le_refl _
  · exact Nat.le_add_right _ _

/-- What a replica reported last was added, and an error is a request. -/
structure Balanced (ledger : Ledger) : Prop where
  last_le : ∀ replica, (ledger.last replica).1 + (ledger.last replica).2 ≤ ledger.requests
  errors_le : ledger.errors ≤ ledger.requests

theorem Balanced.report {ledger : Ledger} (balanced : ledger.Balanced) (replica : String)
    (counts : Nat × Nat) : (ledger.report replica counts).Balanced := by
  have successes := le_add_exactGrowth (ledger.last replica).1 counts.1
  have failures := le_add_exactGrowth (ledger.last replica).2 counts.2
  refine ⟨?_, ?_⟩
  · intro other
    have before := balanced.last_le other
    by_cases same : other = replica
    · subst same
      rw [last_report_self]
      simp only [Ledger.report, exactGrowths]
      omega
    · rw [last_report_of_ne _ same]
      exact Nat.le_trans before (Nat.le_add_right ..)
  · have before := balanced.errors_le
    simp only [Ledger.report, exactGrowths]
    omega

theorem balanced_ofScrapes (scrapes : List Scrape) : (ofScrapes model scrapes).Balanced := by
  apply List.foldlRecOn scrapes (take model)
  · exact ⟨fun _ => Nat.le_refl 0, Nat.le_refl 0⟩
  · intro ledger balanced scrape _
    simp only [take]
    split
    · exact balanced
    · exact balanced.report ..

/-- The counters and the counts of an aggregator are those of a ledger. -/
structure Agrees (model : String) (ledger : Ledger) (aggregator : Aggregator) : Prop where
  last : ∀ replica, (aggregator.lastCounters replica model).answered = ledger.last replica
  requests : (aggregator.countsOf model).1.toNat = ledger.requests
  errors : (aggregator.countsOf model).2.toNat = ledger.errors

/-- Where all requests fit, so does what a single text reports, since it was added as well. -/
theorem Agrees.take {ledger : Ledger} {aggregator : Aggregator} {scrape : Scrape}
    (agrees : ledger.Agrees model aggregator) (balanced : ledger.Balanced)
    (fits : (ledger.take model scrape).requests < UInt64.size) :
    (ledger.take model scrape).Agrees model (aggregator.take scrape) := by
  cases gave : scrape.text with
  | none =>
      have same : ledger.take model scrape = ledger := by simp only [Ledger.take, gave]
      rw [same]
      refine ⟨?_, ?_, ?_⟩
      · intro replica
        rw [lastCounters_take_of_none aggregator model gave, agrees.last]
      · rw [countsOf_take_of_none aggregator model gave, agrees.requests]
      · rw [countsOf_take_of_none aggregator model gave, agrees.errors]
  | some text =>
      have reported : ledger.take model scrape = ledger.report scrape.replica
          (exactCount model .success text, exactCount model .failure text) := by
        simp only [Ledger.take, gave]
      rw [reported] at fits ⊢
      have covered := (balanced.report scrape.replica
        (exactCount model .success text, exactCount model .failure text)).last_le scrape.replica
      rw [last_report_self] at covered
      have answered :
          (countersOf (countersOfSamples (readExposition text)) model).answered =
            (exactCount model .success text, exactCount model .failure text) :=
        ModelCounters.answered_eq ((wraps_count model .success text).exact_iff.mpr (by omega))
          ((wraps_count model .failure text).exact_iff.mpr (by omega))
      have absorbed := absorb_exact (aggregator.lastCounters scrape.replica model)
        (countersOf (countersOfSamples (readExposition text)) model) (aggregator.countsOf model)
        (by rw [answered]; omega)
        (by rw [agrees.requests, agrees.errors]; exact balanced.errors_le)
        (by rw [answered, agrees.last, agrees.requests]; exact fits)
      rw [answered, agrees.last, agrees.requests, agrees.errors,
        ← countsOf_take_of_some aggregator model gave] at absorbed
      refine ⟨?_, absorbed.1, absorbed.2⟩
      intro replica
      by_cases same : replica = scrape.replica
      · subst same
        rw [lastCounters_take_of_some aggregator model gave, last_report_self, answered]
      · rw [lastCounters_take_of_ne aggregator model (Ne.symm same), last_report_of_ne _ same,
          agrees.last]

/-- An aggregator agrees with the ledger as long as all requests fit into a word. -/
theorem agrees_ofScrapes {scrapes : List Scrape}
    (fits : (ofScrapes model scrapes).requests < UInt64.size) :
    (ofScrapes model scrapes).Agrees model (scrapes.foldl Aggregator.take {}) := by
  induction scrapes using List.reverseRecOn with
  | nil => exact ⟨fun _ => rfl, rfl, rfl⟩
  | append_singleton scrapes scrape ih =>
      have last : ofScrapes model (scrapes ++ [scrape]) =
          (ofScrapes model scrapes).take model scrape := List.foldl_concat ..
      rw [last] at fits ⊢
      rw [List.foldl_concat]
      have earlier := ih (Nat.lt_of_le_of_lt (requests_le_take _ scrape) fits)
      exact earlier.take (balanced_ofScrapes scrapes) fits

end Ledger

/-! ## Exact counts -/

/-- Counts are exact as long as they fit into words. After any scrapes, a further text is taken in
with these words for the exact sums: each counter of a model for the sum over its versions, the
requests of the scrape for the successful and the failed ones together, and the queue depth of the
replica for the sum over its queues. The requests for a model over all scrapes are those in its
ledger exactly if these fit, and then so are its errors, of which there are no more than requests.
-/
theorem counts_exact_within_words (scrapes : List Scrape) (replica host text model : String) :
    let before := scrapes.foldl Aggregator.take {}
    let after := before.take ⟨replica, host, some text⟩
    let growth := (after.lastCounters replica model).since (before.lastCounters replica model)
    let ledger := Ledger.ofScrapes model scrapes
    (∀ kind,
      Wraps ((after.lastCounters replica model).count kind) (exactCount model kind text)) ∧
    Wraps growth.requests (growth.success.toNat + growth.failure.toNat) ∧
    Wraps (after.queueDepth replica) (exactSum (queueLengths (readExposition text))) ∧
    ((before.countsOf model).1.toNat = ledger.requests ↔ ledger.requests < UInt64.size) ∧
    (ledger.requests < UInt64.size →
      (before.countsOf model).2.toNat = ledger.errors ∧
        (before.countsOf model).2 ≤ (before.countsOf model).1) := by
  intro before after growth ledger
  refine ⟨?_, wraps_requests growth, ?_, ?_, ?_⟩
  · intro kind
    rw [lastCounters_take_of_some before model rfl]
    exact wraps_count model kind text
  · have depth : after.queueDepth replica = total (queueLengths (readExposition text)) := by
      rw [← queueDepthOfSamples_eq]
      simp only [after, Aggregator.take, Aggregator.queueDepth, Aggregator.ingest_replicas,
        SortedMap.get?_update_self]
      rfl
    rw [depth]
    exact wraps_total _
  · constructor
    · intro exact
      rw [← exact]
      exact UInt64.toNat_lt _
    · intro fits
      exact (Ledger.agrees_ofScrapes fits).requests
  · intro fits
    have agrees := Ledger.agrees_ofScrapes fits
    refine ⟨agrees.errors, ?_⟩
    rw [UInt64.le_iff_toNat_le, agrees.errors, agrees.requests]
    exact (Ledger.balanced_ofScrapes scrapes).errors_le

/-- The counters of a server with a hundred and ten requests are counted exactly. -/
theorem hundredAndTen_counted_exactly :
    let ledger := Ledger.ofScrapes "m" [⟨"r", "h", some hundredAndTen⟩]
    let counts := (({} : Aggregator).take ⟨"r", "h", some hundredAndTen⟩).countsOf "m"
    ledger.requests = 110 ∧ counts.1.toNat = 110 ∧ counts.2 ≤ counts.1 := by
  intro ledger counts
  have requests : ledger.requests = 110 := by decide +kernel
  have fits : ledger.requests < UInt64.size := by
    rw [requests]
    decide
  obtain ⟨-, -, -, exact, errors⟩ :=
    counts_exact_within_words [⟨"r", "h", some hundredAndTen⟩] "r" "h" "" "m"
  exact ⟨requests, (exact.mpr fits).trans requests, (errors fits).2⟩

/-- What a server says that claims more successful requests than a word holds. -/
def manySuccesses : String := "nv_inference_request_success\x7bmodel=\"m\"\x7d 1e20\n"

/-- What a server says that claims two failed requests. -/
def twoFailures : String := "nv_inference_request_failure\x7bmodel=\"m\"\x7d 2\n"

theorem countsOf_manySuccesses_twoFailures :
    ((({} : Aggregator).take ⟨"a", "h", some manySuccesses⟩).take
      ⟨"b", "h", some twoFailures⟩).countsOf "m" = (1, 2) := by
  decide +kernel

/-- Where one server reports as many successful requests as a word holds, the two failed ones of
another leave a single request, with two errors. -/
theorem errors_exceed_requests :
    ¬∀ (scrapes : List Scrape) (model : String),
      let counts := (scrapes.foldl Aggregator.take {}).countsOf model
      counts.1.toNat = (Ledger.ofScrapes model scrapes).requests ∧ counts.2 ≤ counts.1 := by
  intro bounded
  obtain ⟨-, errors⟩ :=
    bounded [⟨"a", "h", some manySuccesses⟩, ⟨"b", "h", some twoFailures⟩] "m"
  rw [List.foldl_cons, List.foldl_cons, List.foldl_nil, countsOf_manySuccesses_twoFailures]
    at errors
  revert errors
  decide

end Fleet.Telemetry
