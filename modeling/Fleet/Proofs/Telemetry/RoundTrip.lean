import Fleet.Proofs.Numeral
import Fleet.Proofs.Telemetry.Labels
import Fleet.Telemetry.Rendering
import Mathlib.Data.List.Forall2

/-!
# Written metrics are read back

Each line of a sample in the text of the metrics is read as that sample, and the other lines are
left out. This takes no assumption on the names of replicas, hosts, accelerators and models: what
would end a label value or a line is escaped, and the reader cuts a line only outside of quotes.
-/

namespace Fleet.Telemetry

open Text

/-! ## Labels -/

/-- A text with every occurrence of one character replaced. -/
def replaced (character : Char) (replacement text : List Char) : List Char :=
  text.flatMap fun other => if other = character then replacement else [other]

/-- Escaping replaces one character after the other; the backslashes come first, so that those of
the later replacements stay as they are. -/
theorem escapeLabel_eq_replaced (value : String) :
    (escapeLabel value).toList =
      replaced '\n' ['\\', 'n']
        (replaced '"' ['\\', '"'] (replaced '\\' ['\\', '\\'] value.toList)) := by
  simp only [escapeLabel, replaced, String.toList_ofList, List.flatMap_assoc]
  congr 1
  funext character
  by_cases backslash : character = '\\'
  · subst backslash
    decide
  · by_cases quote : character = '"'
    · subst quote
      decide
    · by_cases feed : character = '\n' <;> simp [backslash, quote, feed]

/-- An escaped value may stand between quotes. -/
theorem isEscaped_escapeLabel (value : String) :
    IsEscaped (escapeLabel value).toList value.toList := by
  rw [escapeLabel, String.toList_ofList]
  induction value.toList with
  | nil => exact .nil
  | cons character value ih =>
      rw [List.flatMap_cons]
      split
      · exact .literal (by decide) ih
      · exact .literal (by decide) ih
      · exact .feed ih
      · next backslash quote _ => exact .plain ⟨quote, backslash⟩ ih

theorem feed_notMem_escapeLabel (value : String) : '\n' ∉ (escapeLabel value).toList := by
  simp only [escapeLabel, String.toList_ofList, List.mem_flatMap, not_exists, not_and]
  intro character _
  split <;> simp_all [eq_comm]

section NameCharacters

variable {character : Char} (named : Sample.isNameCharacter character = true)

include named

theorem ne_of_isNameCharacter {other : Char}
    (unnamed : Sample.isNameCharacter other = false) : character ≠ other := by
  rintro rfl
  exact Bool.false_ne_true (unnamed.symm.trans named)

theorem isBlank_of_isNameCharacter : isBlank character = false := by
  simp only [Sample.isNameCharacter, Bool.or_eq_true, beq_iff_eq] at named
  rcases named with (alphanumeric | rfl) | rfl
  · exact isBlank_of_isAlphanumeric alphanumeric
  · decide
  · decide

theorem precedesLabels_of_isNameCharacter : Sample.precedesLabels character = true := by
  have brace : character ≠ '{' := ne_of_isNameCharacter named (by decide)
  simp [Sample.precedesLabels, brace, isBlank_of_isNameCharacter named]

end NameCharacters

/-- The name of a metric or the key of a label. -/
structure IsName (name : String) : Prop where
  nonempty : name.toList ≠ []
  named : ∀ character ∈ name.toList, Sample.isNameCharacter character = true

instance : DecidablePred IsName :=
  fun name => decidable_of_iff
    (name.toList ≠ [] ∧ name.toList.all Sample.isNameCharacter = true)
    ⟨fun parts => ⟨parts.1, List.all_eq_true.mp parts.2⟩,
      fun name => ⟨name.nonempty, List.all_eq_true.mpr name.named⟩⟩

theorem IsName.exists_cons_append {name : String} (isName : IsName name) (rest : List Char) :
    ∃ first tail, name.toList ++ rest = first :: tail ∧ Sample.isNameCharacter first = true := by
  obtain ⟨first, tail, same⟩ := List.exists_cons_of_ne_nil isName.nonempty
  rw [same, List.cons_append]
  exact ⟨first, _, rfl, isName.named first (by simp [same])⟩

theorem IsName.isKey {name : String} (isName : IsName name) : IsKey name.toList where
  nonempty := isName.nonempty
  inside := by
    intro character among
    have named := isName.named character among
    exact ⟨ne_of_isNameCharacter named (by decide), isBlank_of_isNameCharacter named⟩
  start := by
    have named : ∀ first, name.toList.head? = some first → Sample.isNameCharacter first = true :=
      fun first begins => isName.named first (List.mem_of_mem_head? begins)
    exact ⟨fun comma => absurd (named ',' comma) (by decide),
      fun brace => absurd (named '}' brace) (by decide)⟩

/-- A label as it is written. -/
def labelText (label : Label) : List Char :=
  label.1.toList ++ '=' :: '"' :: ((escapeLabel label.2).toList ++ ['"'])

theorem isLabel_labelText {label : Label} (key : IsName label.1) :
    IsLabel (labelText label) label := by
  have none : ∀ blank ∈ ([] : List Char), isBlank blank = true := by simp
  have isLabel := IsLabel.intro key.isKey none none (isEscaped_escapeLabel label.2)
  rwa [String.ofList_toList, String.ofList_toList] at isLabel

theorem isClosed_flatMap {labels : List Label} (keys : ∀ label ∈ labels, IsName label.1) :
    IsClosed (labels.flatMap (',' :: labelText ·) ++ ['}']) labels := by
  induction labels with
  | nil =>
      have none : IsSeparation [] := by simp [IsSeparation]
      exact .brace none
  | cons label labels ih =>
      have key := keys label List.mem_cons_self
      have later := ih fun other among => keys other (List.mem_cons_of_mem _ among)
      have comma : IsSeparation [','] := by simp [IsSeparation]
      have closed := IsClosed.label comma (isLabel_labelText key) later
      simpa using closed

/-- The block of labels as it is written; none if there are no labels. -/
def blockText (labels : List Label) : List Char :=
  if labels.isEmpty then []
  else '{' :: (List.intercalate [','] (labels.map labelText) ++ ['}'])

theorem cons_intercalate (label : Label) (labels : List Label) :
    ',' :: List.intercalate [','] ((label :: labels).map labelText) =
      (label :: labels).flatMap (',' :: labelText ·) := by
  induction labels generalizing label with
  | nil => simp [List.intercalate]
  | cons next labels ih =>
      rw [List.flatMap_cons, ← ih next, List.map_cons, List.map_cons, List.intercalate_cons_cons]
      simp

/-- A written block is a block, whatever the values of its labels are. -/
theorem isBlock_blockText {labels : List Label} (keys : ∀ label ∈ labels, IsName label.1)
    (nonempty : labels ≠ []) : IsBlock (blockText labels) labels := by
  rcases List.exists_cons_of_ne_nil nonempty with ⟨label, others, rfl⟩
  rcases List.forall_mem_cons.mp keys with ⟨key, later⟩
  have joined : List.intercalate [','] ((label :: others).map labelText) =
      labelText label ++ others.flatMap (',' :: labelText ·) :=
    List.tail_eq_of_cons_eq (cons_intercalate label others)
  have none : IsSeparation [] := by simp [IsSeparation]
  have closed := IsClosed.label none (isLabel_labelText key) (isClosed_flatMap later)
  rw [blockText, if_neg (by simp), joined, List.append_assoc]
  exact .intro closed

theorem feed_notMem_blockText {labels : List Label} (keys : ∀ label ∈ labels, IsName label.1) :
    '\n' ∉ blockText labels := by
  have inLabel : ∀ label ∈ labels, '\n' ∉ labelText label := by
    intro label among feed
    rcases List.mem_append.mp feed with key | value
    · exact absurd ((keys label among).named _ key) (by decide)
    · simp [feed_notMem_escapeLabel] at value
  cases labels with
  | nil => exact List.not_mem_nil
  | cons first others =>
      intro feed
      have inside : '\n' ∈ ',' :: List.intercalate [','] ((first :: others).map labelText) := by
        simpa [blockText] using feed
      rw [cons_intercalate, List.mem_flatMap] at inside
      obtain ⟨label, among, feed⟩ := inside
      simp [inLabel label among] at feed

/-! ## Lines -/

namespace RenderedSample

/-- A sample whose line is read: its name and its keys are names, its value is a number. -/
structure IsReadable (sample : RenderedSample) : Prop where
  name : IsName sample.name
  keys : ∀ label ∈ sample.labels, IsName label.1
  number : Decimal.IsNumber sample.value.toList

/-- The sample that a reader of the name, the labels and the value gets. -/
def read? (sample : RenderedSample) : Option Sample :=
  (Sample.readValue? sample.value.toList).map fun value => ⟨sample.name, sample.labels, value⟩

/-- The line of a sample without its line feed. -/
def lineText (sample : RenderedSample) : List Char :=
  sample.name.toList ++ (blockText sample.labels ++ ' ' :: sample.value.toList)

theorem toList_line (sample : RenderedSample) :
    sample.line.toList = sample.lineText ++ ['\n'] := by
  have labels : sample.labels.map
      (String.toList ∘ fun label => label.1 ++ "=\"" ++ escapeLabel label.2 ++ "\"") =
        sample.labels.map labelText := by
    apply List.map_congr_left
    intro label _
    simp [labelText]
  simp only [line, lineText, blockText]
  split <;> simp [String.toList_intercalate, labels]

variable {sample : RenderedSample}

theorem IsReadable.exists_cons (readable : sample.IsReadable) :
    ∃ first rest, sample.lineText = first :: rest ∧ Sample.isNameCharacter first = true :=
  readable.name.exists_cons_append _

/-- A line ends in its value, and so not in a blank. -/
theorem IsReadable.exists_getLast? (readable : sample.IsReadable) :
    ∃ last, sample.lineText.getLast? = some last ∧ isBlank last = false := by
  have ends := List.getLast?_eq_some_getLast readable.number.nonempty
  refine ⟨_, ?_, readable.number.visible _ (List.mem_of_getLast? ends)⟩
  simp [lineText, List.getLast?_append, List.getLast?_cons, ends]

theorem IsReadable.isLine (readable : sample.IsReadable) : IsLine sample.lineText := by
  have feed : isBlank '\n' = true := by decide
  refine ⟨?_, ?_⟩
  · intro among
    rcases List.mem_append.mp among with name | rest
    · exact absurd (readable.name.named _ name) (by decide)
    · rcases List.mem_append.mp rest with block | value
      · exact feed_notMem_blockText readable.keys block
      · rcases List.mem_cons.mp value with space | value
        · exact absurd space (by decide)
        · exact Bool.false_ne_true ((readable.number.visible _ value).symm.trans feed)
  · intro return'
    obtain ⟨last, ends, visible⟩ := readable.exists_getLast?
    rw [ends, Option.some.injEq] at return'
    rw [return'] at visible
    exact absurd visible (by decide)

theorem IsReadable.trim_lineText (readable : sample.IsReadable) :
    trim sample.lineText = sample.lineText := by
  obtain ⟨last, ends, visible⟩ := readable.exists_getLast?
  obtain ⟨first, rest, same, named⟩ := readable.exists_cons
  have kept : trimStart sample.lineText = sample.lineText := by
    rw [same]
    exact trimStart_cons (isBlank_of_isNameCharacter named) rest
  rw [trim, kept, trimEnd_of_getLast? ends visible]

/-- The name on a line reaches up to the labels or, if there are none, to the blank. -/
theorem IsReadable.name_lineText (readable : sample.IsReadable) :
    sample.lineText.takeWhile Sample.precedesLabels = sample.name.toList ∧
      sample.lineText.dropWhile Sample.precedesLabels =
        blockText sample.labels ++ ' ' :: sample.value.toList := by
  have before : ∀ character ∈ sample.name.toList, Sample.precedesLabels character = true :=
    fun character among =>
      precedesLabels_of_isNameCharacter (readable.name.named character among)
  obtain ⟨first, rest, same, ends⟩ : ∃ first rest,
      blockText sample.labels ++ ' ' :: sample.value.toList = first :: rest ∧
        ¬Sample.precedesLabels first = true := by
    rw [blockText]
    split
    · exact ⟨' ', _, rfl, by decide⟩
    · exact ⟨'{', _, rfl, by decide⟩
  rw [lineText, List.takeWhile_append_of_pos before, List.dropWhile_append_of_pos before, same,
    List.takeWhile_cons_of_neg ends, List.dropWhile_cons_of_neg ends, List.append_nil]
  exact ⟨rfl, rfl⟩

theorem IsReadable.ofLine?_lineText (readable : sample.IsReadable) :
    Sample.ofLine? sample.lineText = sample.read? := by
  have uncommented : sample.lineText.head? ≠ some '#' := by
    obtain ⟨first, rest, same, named⟩ := readable.exists_cons
    have hash : first ≠ '#' := ne_of_isNameCharacter named (by decide)
    simpa [same] using hash
  have name : (sample.name.toList.isEmpty ||
      !sample.name.toList.all Sample.isNameCharacter) = false := by
    simpa [readable.name.nonempty] using readable.name.named
  have value : Sample.readValue? (' ' :: sample.value.toList) =
      Sample.readValue? sample.value.toList := by
    rw [Sample.readValue?, firstWord?_cons_of_isBlank (by decide), Sample.readValue?]
  rw [Sample.ofLine?, readable.trim_lineText]
  dsimp only
  rw [if_neg uncommented, readable.name_lineText.1, readable.name_lineText.2, name,
    if_neg Bool.false_ne_true]
  by_cases none : sample.labels = []
  · rw [none, blockText, if_pos (by rfl), List.nil_append, read?, none, ← value]
    simp only [String.ofList_toList]
    rfl
  · have block : Label.readBlock? (blockText sample.labels ++ ' ' :: sample.value.toList) =
        some (sample.labels, ' ' :: sample.value.toList) :=
      readBlock?_eq_some_iff.mpr ⟨_, rfl, isBlock_blockText readable.keys none⟩
    rw [blockText, if_neg (by simpa using none), List.cons_append] at block ⊢
    simp only [cut_measureBlock?, block, value, read?, String.ofList_toList]

theorem IsReadable.read?_isSome (readable : sample.IsReadable) : sample.read?.isSome := by
  rw [read?, Sample.readValue?, readable.number.firstWord?]
  simpa using readable.number.readable

end RenderedSample

/-! ## Families -/

/-- A family whose lines are read: its name is a name and its help text stays on its line. -/
structure Family.IsReadable (family : Family) : Prop where
  name : IsName family.name
  help : IsLine family.help.toList
  samples : ∀ sample ∈ family.samples, sample.IsReadable

namespace Family

/-- The line that declares the help text of a family. -/
def helpLine (family : Family) : String :=
  "# HELP " ++ family.name ++ " " ++ family.help

/-- The line that declares the type of a family. -/
def typeLine (family : Family) : String :=
  "# TYPE " ++ family.name ++ " gauge"

/-- The lines of a family without their line feeds. -/
def lineTexts (family : Family) : List (List Char) :=
  family.helpLine.toList :: family.typeLine.toList :: family.samples.map RenderedSample.lineText

end Family

theorem lines_samples {samples : List RenderedSample}
    (readable : ∀ sample ∈ samples, sample.IsReadable) (rest : List Char) :
    lines (samples.flatMap (·.line.toList) ++ rest) =
      samples.map RenderedSample.lineText ++ lines rest := by
  induction samples with
  | nil => rfl
  | cons sample samples ih =>
      have first := readable sample List.mem_cons_self
      have later := ih fun other among => readable other (List.mem_cons_of_mem _ among)
      rw [List.flatMap_cons, sample.toList_line, List.append_assoc, List.append_assoc,
        List.singleton_append, lines_append_cons first.isLine, later, List.map_cons,
        List.cons_append]

theorem Family.IsReadable.lines_text {family : Family} (readable : family.IsReadable)
    (rest : List Char) :
    lines (family.text.toList ++ rest) = family.lineTexts ++ lines rest := by
  have nameless : '\n' ∉ family.name.toList :=
    fun feed => absurd (readable.name.named _ feed) (by decide)
  have help : IsLine family.helpLine.toList := by
    have line : IsLine (("# HELP ".toList ++ family.name.toList) ++ ' ' :: family.help.toList) :=
      .append_cons (by simp [nameless]) readable.help.cons_space
    simpa [helpLine] using line
  have type : IsLine family.typeLine.toList := by
    have line : IsLine (("# TYPE ".toList ++ family.name.toList) ++ " gauge".toList) :=
      .append_cons (by simp [nameless]) ⟨by decide, by decide⟩
    simpa [typeLine] using line
  have text : family.text.toList ++ rest =
      family.helpLine.toList ++ '\n' ::
        (family.typeLine.toList ++ '\n' :: (family.samples.flatMap (·.line.toList) ++ rest)) := by
    simp [Family.text, helpLine, typeLine, List.flatMap_map]
  rw [text, lines_append_cons help, lines_append_cons type, lines_samples readable.samples,
    lineTexts, List.cons_append, List.cons_append]

/-- A text of families is cut into the lines that it was put together from. -/
theorem lines_families {families : List Family}
    (readable : ∀ family ∈ families, family.IsReadable) :
    lines (families.flatMap (·.text.toList)) = families.flatMap Family.lineTexts := by
  induction families with
  | nil => rfl
  | cons family families ih =>
      have first := readable family List.mem_cons_self
      have later := ih fun other among => readable other (List.mem_cons_of_mem _ among)
      rw [List.flatMap_cons, first.lines_text, later, List.flatMap_cons]

theorem ofLine?_of_head? {line : List Char} (comment : line.head? = some '#') :
    Sample.ofLine? line = none := by
  obtain ⟨rest, rfl⟩ := List.head?_eq_some_iff.mp comment
  rw [Sample.ofLine?]
  dsimp only
  rw [if_pos (head?_trim_cons (by decide) rest)]

theorem filterMap_lineText {samples : List RenderedSample}
    (readable : ∀ sample ∈ samples, sample.IsReadable) :
    (samples.map RenderedSample.lineText).filterMap Sample.ofLine? =
      samples.filterMap RenderedSample.read? := by
  rw [List.filterMap_map]
  exact List.filterMap_congr fun sample among => (readable sample among).ofLine?_lineText

/-- The lines before the samples are left out. -/
theorem filterMap_lineTexts {families : List Family}
    (readable : ∀ family ∈ families, family.IsReadable) :
    (families.flatMap Family.lineTexts).filterMap Sample.ofLine? =
      (families.flatMap Family.samples).filterMap RenderedSample.read? := by
  rw [List.filterMap_flatMap, List.filterMap_flatMap]
  apply List.flatMap_congr
  intro family among
  have help : Sample.ofLine? family.helpLine.toList = none :=
    ofLine?_of_head? (by simp [Family.helpLine])
  have type : Sample.ofLine? family.typeLine.toList = none :=
    ofLine?_of_head? (by simp [Family.typeLine])
  rw [Family.lineTexts, List.filterMap_cons_none help, List.filterMap_cons_none type,
    filterMap_lineText (readable family among).samples]

/-! ## The families of the fleet -/

theorem isName_accelerator (metric : String) : IsName ("tarn_gpu_" ++ metricName metric) := by
  have start : IsName "tarn_gpu_" := by decide
  refine ⟨by simp, ?_⟩
  intro character among
  rw [String.toList_append, List.mem_append] at among
  rcases among with fixed | replaced
  · exact start.named character fixed
  · rw [metricName, String.toList_ofList, List.mem_map] at replaced
    obtain ⟨original, -, rfl⟩ := replaced
    split
    · next kept => simp [Sample.isNameCharacter, kept]
    · decide

theorem isNumber_fixedValue (places : Nat) (value : Binary64) :
    Decimal.IsNumber (fixedValue places value).toList := by
  rw [fixedValue, String.toList_ofList]
  exact Decimal.isNumber_fixedText places value

theorem isReadable_gauge {name help value : String} (isName : IsName name)
    (line : IsLine help.toList) (number : Decimal.IsNumber value.toList) :
    (gauge name help value).IsReadable where
  name := isName
  help := line
  samples := by
    intro sample among
    rw [gauge, List.mem_singleton] at among
    subst among
    exact ⟨isName, by simp, number⟩

theorem isNumber_repr (number : Nat) : Decimal.IsNumber (Nat.repr number).toList := by
  rw [Nat.toList_repr]
  exact (Decimal.isNumeral_toDigits number).isNumber

theorem isReadable_fleetGauges (gauges : FleetGauges) :
    ∀ family ∈ gauges.families, family.IsReadable := by
  rw [FleetGauges.families, List.forall_mem_cons, List.forall_mem_cons, List.forall_mem_cons,
    List.forall_mem_singleton]
  refine ⟨?target, ?running, ?pending, ?load⟩
  case target => exact isReadable_gauge (by decide) (by decide) (isNumber_repr _)
  case running => exact isReadable_gauge (by decide) (by decide) (isNumber_repr _)
  case pending => exact isReadable_gauge (by decide) (by decide) (isNumber_repr _)
  case load => exact isReadable_gauge (by decide) (by decide) (isNumber_fixedValue 4 _)

theorem isName_loadLabels (load : ReplicaLoad) : ∀ label ∈ load.labels, IsName label.1 := by
  have keys : IsName "replica_id" ∧ IsName "host" := by decide
  rw [ReplicaLoad.labels, List.forall_mem_cons, List.forall_mem_singleton]
  exact keys

theorem isReadable_replicaFamily (replicas : List ReplicaLoad) :
    (replicaFamily replicas).IsReadable := by
  have name : IsName "tarn_replica_load" := by decide
  have help : IsLine "Per-replica load (0.0-1.0).".toList := by decide
  refine ⟨name, help, ?_⟩
  intro sample among
  obtain ⟨load, -, rfl⟩ := List.mem_map.mp among
  exact ⟨name, isName_loadLabels load, isNumber_fixedValue 4 load.load⟩

theorem isReadable_acceleratorFamily (replicas : List ReplicaLoad) (metric : String) :
    (acceleratorFamily replicas metric).IsReadable := by
  have name := isName_accelerator metric
  have key : IsName "gpu" := by decide
  have help : IsLine "GPU metric reported by the replica.".toList := by decide
  refine ⟨name, help, ?_⟩
  intro sample among
  obtain ⟨load, -, among⟩ := List.mem_flatMap.mp among
  obtain ⟨⟨accelerator, readings⟩, -, read⟩ := List.mem_filterMap.mp among
  obtain ⟨value, -, rfl⟩ := Option.map_eq_some_iff.mp read
  refine ⟨name, ?_, ?_⟩
  · rw [List.forall_mem_append, List.forall_mem_singleton]
    exact ⟨isName_loadLabels load, key⟩
  · rw [String.toList_ofList]
    exact Decimal.isNumber_plain value

theorem isReadable_modelFamilies (models : List ModelReport) :
    ∀ family ∈ modelFamilies models, family.IsReadable := by
  have model : IsName "model" := by decide
  have quantile : IsName "quantile" := by decide
  rw [modelFamilies, List.forall_mem_cons, List.forall_mem_singleton]
  refine ⟨?errorRate, ?latency⟩
  case errorRate =>
    have name : IsName "tarn_model_error_rate" := by decide
    have help : IsLine "Model error rate (0.0-1.0).".toList := by decide
    refine ⟨name, help, ?_⟩
    intro sample among
    obtain ⟨report, -, rfl⟩ := List.mem_map.mp among
    exact ⟨name, List.forall_mem_singleton.mpr model, isNumber_fixedValue 4 report.errorRate⟩
  case latency =>
    have name : IsName "tarn_model_latency_ms" := by decide
    have help : IsLine "Model inference latency percentiles in milliseconds.".toList := by decide
    refine ⟨name, help, ?_⟩
    intro sample among
    obtain ⟨report, -, among⟩ := List.mem_flatMap.mp among
    obtain ⟨⟨share, value⟩, -, rfl⟩ := List.mem_map.mp among
    refine ⟨name, ?_, isNumber_fixedValue 2 value⟩
    rw [List.forall_mem_cons, List.forall_mem_singleton]
    exact ⟨model, quantile⟩

theorem isReadable_families (gauges : FleetGauges) (replicas : List ReplicaLoad)
    (models : List ModelReport) :
    ∀ family ∈ families gauges replicas models, family.IsReadable := by
  rw [families, List.forall_mem_append, List.forall_mem_append, List.forall_mem_append,
    List.forall_mem_singleton]
  refine ⟨⟨⟨isReadable_fleetGauges gauges, isReadable_replicaFamily replicas⟩, ?_⟩,
    isReadable_modelFamilies models⟩
  intro family among
  obtain ⟨metric, -, rfl⟩ := List.mem_map.mp among
  exact isReadable_acceleratorFamily replicas metric

/-- The names and the labels of the samples, in the order in which they are written. -/
def sampleHeads (replicas : List ReplicaLoad) (models : List ModelReport) :
    List (String × List Label) :=
  [("tarn_target_replicas", []), ("tarn_running_replicas", []), ("tarn_pending_allocations", []),
      ("tarn_aggregate_load", [])] ++
    (replicas.map fun load =>
      ("tarn_replica_load", [("replica_id", load.replica), ("host", load.host)])) ++
    ((acceleratorMetrics replicas).flatMap fun metric => replicas.flatMap fun load =>
      (load.accelerators.entries.filter fun entry => entry.2.contains metric).map fun entry =>
        ("tarn_gpu_" ++ metricName metric,
          [("replica_id", load.replica), ("host", load.host), ("gpu", entry.1)])) ++
    (models.map fun report => ("tarn_model_error_rate", [("model", report.model)])) ++
    (models.flatMap fun report => ["0.5", "0.95", "0.99"].map fun quantile =>
      ("tarn_model_latency_ms", [("model", report.model), ("quantile", quantile)]))

theorem heads_acceleratorFamily (replicas : List ReplicaLoad) (metric : String) :
    (acceleratorFamily replicas metric).samples.map (fun sample => (sample.name, sample.labels)) =
      replicas.flatMap fun load =>
        (load.accelerators.entries.filter fun entry => entry.2.contains metric).map fun entry =>
          ("tarn_gpu_" ++ metricName metric,
            [("replica_id", load.replica), ("host", load.host), ("gpu", entry.1)]) := by
  simp only [acceleratorFamily, List.map_flatMap]
  congr 1
  funext load
  induction load.accelerators.entries with
  | nil => rfl
  | cons entry entries ih =>
      rw [List.filterMap_cons, List.filter_cons]
      cases found : entry.2.get? metric with
      | none => simpa [SortedMap.contains, found] using ih
      | some value => simpa [SortedMap.contains, found, ReplicaLoad.labels] using ih

theorem heads_families (gauges : FleetGauges) (replicas : List ReplicaLoad)
    (models : List ModelReport) :
    ((families gauges replicas models).flatMap Family.samples).map
        (fun sample => (sample.name, sample.labels)) = sampleHeads replicas models := by
  simp [families, FleetGauges.families, gauge, replicaFamily, heads_acceleratorFamily,
    modelFamilies, sampleHeads, ReplicaLoad.labels, List.map_flatMap, List.flatMap_map,
    Function.comp_def]

/-! ## The round trip -/

/-- A sample as it is read from its line. -/
def IsReading (sample : Sample) (rendered : RenderedSample) : Prop :=
  sample.name = rendered.name ∧ sample.labels = rendered.labels ∧
    Sample.readValue? rendered.value.toList = some sample.value

theorem forall₂_filterMap {rendered : List RenderedSample}
    (readable : ∀ sample ∈ rendered, sample.IsReadable) :
    List.Forall₂ IsReading (rendered.filterMap RenderedSample.read?) rendered := by
  induction rendered with
  | nil => exact .nil
  | cons sample rendered ih =>
      obtain ⟨first, others⟩ := List.forall_mem_cons.mp readable
      obtain ⟨read, same⟩ := Option.isSome_iff_exists.mp first.read?_isSome
      rw [List.filterMap_cons, same]
      refine .cons ?_ (ih others)
      obtain ⟨value, number, rfl⟩ := Option.map_eq_some_iff.mp same
      exact ⟨rfl, rfl, number⟩

/-- The text of the metrics is cut into the lines of its families. -/
theorem lines_renderExposition (gauges : FleetGauges) (replicas : List ReplicaLoad)
    (models : List ModelReport) :
    lines (renderExposition gauges replicas models).toList =
      (families gauges replicas models).flatMap Family.lineTexts := by
  rw [renderExposition, String.toList_join, List.flatMap_map,
    lines_families (isReadable_families gauges replicas models)]

/-- Every rendered sample is read, so that leaving out malformed lines leaves out none of them. -/
theorem forall₂_readExposition (gauges : FleetGauges) (replicas : List ReplicaLoad)
    (models : List ModelReport) :
    List.Forall₂ IsReading (readExposition (renderExposition gauges replicas models))
      ((families gauges replicas models).flatMap Family.samples) := by
  have readable := isReadable_families gauges replicas models
  rw [readExposition, lines_renderExposition, filterMap_lineTexts readable]
  apply forall₂_filterMap
  intro sample among
  obtain ⟨family, rendered, among⟩ := List.mem_flatMap.mp among
  exact (readable family rendered).samples sample among

theorem heads_readExposition (gauges : FleetGauges) (replicas : List ReplicaLoad)
    (models : List ModelReport) :
    (readExposition (renderExposition gauges replicas models)).map
        (fun sample => (sample.name, sample.labels)) = sampleHeads replicas models := by
  rw [← heads_families gauges, ← List.forall₂_eq_eq_eq, List.forall₂_map_left_iff,
    List.forall₂_map_right_iff]
  refine (forall₂_readExposition gauges replicas models).imp ?_
  rintro sample rendered ⟨name, labels, -⟩
  rw [name, labels]

/-- The samples that are read from the text of the metrics are those that were rendered, in their
order: each has the name and the labels that it was rendered with, and the value that its number
denotes. So the names of replicas, hosts, accelerators and models come back as they are. -/
theorem readExposition_renderExposition (gauges : FleetGauges) (replicas : List ReplicaLoad)
    (models : List ModelReport) :
    let samples := readExposition (renderExposition gauges replicas models)
    List.Forall₂ IsReading samples ((families gauges replicas models).flatMap Family.samples) ∧
      samples.map (fun sample => (sample.name, sample.labels)) = sampleHeads replicas models :=
  ⟨forall₂_readExposition gauges replicas models, heads_readExposition gauges replicas models⟩

end Fleet.Telemetry
