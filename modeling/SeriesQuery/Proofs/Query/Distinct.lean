import SeriesQuery.Proofs.Query.Subject
import SeriesQuery.Proofs.Query.Written
import SeriesQuery.Proofs.Text.Dotted

set_option autoImplicit false

/-!
# No two subjects are confused

What a path selects is put together from its names and from the codes of its words. If no name has a
dot, it comes apart again: within one kind of context, different subjects select different rows. Two
accepted paths that select the same are therefore written forms of one subject.
-/

namespace SeriesQuery.Query

open SeriesQuery.Text SeriesQuery.Text.Dotted

/-! ## Codes -/

@[simp] theorem ProgramKind.code_inj {kind other : ProgramKind} :
    kind.code = other.code ↔ kind = other := by
  cases kind <;> cases other <;> decide

@[simp] theorem BatchPhase.code_inj {step other : BatchPhase} :
    step.code = other.code ↔ step = other := by
  cases step <;> cases other <;> decide

@[simp] theorem ProgramKind.simple_code (kind : ProgramKind) : Simple kind.code := by
  cases kind <;> decide

@[simp] theorem BatchPhase.simple_code (step : BatchPhase) : Simple step.code := by
  cases step <;> decide

/-! ## Subjects by their components

Two forms of one kind of path differ in the number of components, in a code, or in whether there is a
context or a tag at all.
-/

theorem Collected.eq_of_same {left right : Collected} (context : left.context = right.context)
    (tag : left.tag = right.tag) : left = right := by
  cases left <;> cases right <;> simp_all [Collected.context, Collected.tag, Program.ext_iff]

theorem Processed.eq_of_same {left right : Processed} (context : left.context = right.context)
    (metric : left.metric = right.metric) : left = right := by
  cases left <;> cases right <;>
    simp_all [Processed.context, Processed.metric, Program.ext_iff]

theorem Portion.names_inj {left right : Portion} : left.names = right.names ↔ left = right := by
  constructor
  · intro same
    cases left <;> cases right <;> simp_all [Portion.names, Program.ext_iff]
  · exact fun same => same ▸ rfl

theorem Portion.names_ne_singleton (portion : Portion) (app : String) :
    portion.names ≠ [app] := by
  cases portion <;> simp [Portion.names]

theorem Stored.eq_of_same {left right : Stored} (context : left.context = right.context)
    (tag : left.tag = right.tag) : left = right := by
  cases left <;> cases right <;>
    simp_all [Stored.context, Stored.tag, Portion.names_inj, Portion.names_ne_singleton,
      (Portion.names_ne_singleton _ _).symm]

/-- What follows the metric of a collect path sets a context or a tag. -/
theorem Collected.some_context_or_tag (what : Collected) :
    ¬ (what.context = none ∧ what.tag = none) := by
  cases what <;> simp [Collected.context, Collected.tag]

theorem Stored.some_context_or_tag (what : Stored) :
    ¬ (what.context = none ∧ what.tag = none) := by
  cases what <;> simp [Stored.context, Stored.tag]

theorem Subject.eq_of_same {left right : Subject} (kind : left.kind = right.kind)
    (context : left.contextNames = right.contextNames)
    (metric : left.metricNames = right.metricNames) (tag : left.tag = right.tag) :
    left = right := by
  cases left with
  | metric =>
      cases right with
      | metric =>
          cases kind
          cases metric
          rfl
      | collect _ what => exact absurd ⟨context.symm, tag.symm⟩ what.some_context_or_tag
      | process => cases context
      | store _ what => exact absurd ⟨context.symm, tag.symm⟩ what.some_context_or_tag
  | collect _ what =>
      cases right with
      | metric => exact absurd ⟨context, tag⟩ what.some_context_or_tag
      | collect =>
          cases Collected.eq_of_same context tag
          cases metric
          rfl
      | process _ runs =>
          cases kind
          cases runs <;> contradiction
      | store => cases kind
  | process _ runs =>
      cases right with
      | metric => cases context
      | collect =>
          cases kind
          cases runs <;> contradiction
      | process =>
          obtain ⟨rfl, names⟩ := List.cons.inj metric
          cases Processed.eq_of_same (Option.some.inj context) names
          cases kind
          rfl
      | store =>
          cases kind
          cases runs <;> contradiction
  | store name what =>
      cases right with
      | metric => exact absurd ⟨context, tag⟩ what.some_context_or_tag
      | collect => cases kind
      | process _ runs =>
          cases kind
          cases runs <;> contradiction
      | store other =>
          cases Stored.eq_of_same context tag
          cases name <;> cases other <;> cases metric <;> rfl

/-! ## Subjects by what they select -/

/-- The names by which a subject selects are simple. -/
structure Subject.IsSimple (subject : Subject) : Prop where
  context : ∀ names, subject.contextNames = some names → ∀ name ∈ names, Simple name
  metric : ∀ name ∈ subject.metricNames, Simple name

theorem Spelling.mem_of_name {parts : List Part} {path : List String} {text : String}
    (spelling : Spelling parts path) (member : Part.name text ∈ parts) : text ∈ path := by
  induction spelling with
  | nil => cases member
  | cons spelled _ ih =>
      cases member with
      | head =>
          cases spelled
          exact List.mem_cons_self
      | tail _ later => exact List.mem_cons_of_mem _ (ih later)

theorem Stored.Sentence.simple {what : Stored} {parts : List Part} (sentence : what.Sentence parts)
    (simple : ∀ text, Part.name text ∈ parts → Simple text) :
    ∀ names, what.context = some names → ∀ name ∈ names, Simple name := by
  cases sentence with
  | application => simp_all [Stored.context]
  | @program portion => cases portion <;> simp_all [Stored.context, Portion.parts, Portion.names]
  | @datasetLast portion =>
      cases portion <;> simp_all [Stored.context, Portion.parts, Portion.names]
  | datasetFirst => simp_all [Stored.context, Portion.names]
  | dataset => simp [Stored.context]

/-- Besides names of its sentence a subject selects by codes only. -/
theorem Subject.Sentence.simple {subject : Subject} {parts : List Part}
    (sentence : subject.Sentence parts)
    (simple : ∀ text, Part.name text ∈ parts → Simple text) : subject.IsSimple := by
  cases sentence with
  | metric => constructor <;> simp_all [contextNames, metricNames]
  | @collect _ what =>
      constructor <;> cases what <;>
        simp_all [contextNames, metricNames, Collected.parts, Collected.context]
  | @process _ _ _ what =>
      constructor <;> cases what <;>
        simp_all [contextNames, metricNames, Processed.parts, Processed.context, Processed.metric]
  | store stored =>
      exact ⟨stored.simple fun text member => simple text (by simp [member]),
        by simp_all [metricNames]⟩
  | everyMetric stored =>
      exact ⟨stored.simple fun text member => simple text (by simp [member]),
        by simp [metricNames]⟩

theorem Subject.WrittenBy.simple {subject : Subject} {path : List String}
    (written : subject.WrittenBy path) (simple : ∀ segment ∈ path, Simple segment) :
    subject.IsSimple := by
  obtain ⟨parts, sentence, spelling⟩ := written
  exact sentence.simple fun text member => simple text (spelling.mem_of_name member)

theorem contextNames_inj {left right : Option (List String)}
    (leftSimple : ∀ names, left = some names → ∀ name ∈ names, Simple name)
    (rightSimple : ∀ names, right = some names → ∀ name ∈ names, Simple name)
    (same : left.map (".".intercalate ·) = right.map (".".intercalate ·)) : left = right := by
  cases left with
  | none =>
      cases right with
      | none => rfl
      | some _ => cases same
  | some names =>
      cases right with
      | none => cases same
      | some others =>
          exact congrArg some (intercalate_inj (leftSimple names rfl) (rightSimple others rfl)
            (Option.some.inj same))

/-- Within one kind of context, subjects with simple names that select the same are the same. -/
theorem Subject.eq_of_selection {left right : Subject} (leftSimple : left.IsSimple)
    (rightSimple : right.IsSimple) (kind : left.kind = right.kind)
    (selection : left.selection = right.selection) : left = right := by
  obtain ⟨context, metric, tag⟩ := Selection.mk.inj selection
  exact Subject.eq_of_same kind (contextNames_inj leftSimple.context rightSimple.context context)
    (intercalate_inj leftSimple.metric rightSimple.metric metric) tag

/-! ## Requests -/

/-- The kind of context that a path starts with. -/
def contextKind? (path : List String) : Option ContextKind :=
  path.head?.bind ContextKind.ofToken?

theorem Subject.WrittenBy.contextKind?_eq {subject : Subject} {path : List String}
    (written : subject.WrittenBy path) : contextKind? path = some subject.kind := by
  obtain ⟨parts, sentence, spelling⟩ := written
  cases sentence <;> cases spelling <;> exact ContextKind.ofToken?_eq_some_iff.mpr ‹_›

theorem ne_empty_of_segment {raw : List Char} {name : String} (some : raw ≠ [])
    (read : segment raw = .ok name) : name ≠ "" := by
  rintro rfl
  exact Percent.decode_ne_nil some (segment_eq_ok_iff.mp read).1

theorem ne_empty_of_segments {path : List Char} {names : List String}
    (read : segments path = .ok names) : ∀ name ∈ names, name ≠ "" := by
  have some : ∀ raw ∈ words '/' path, raw ≠ [] := fun raw member =>
    of_decide_eq_true (List.mem_filter.mp member).2
  have each : List.Forall₂ (fun raw name => segment raw = .ok name) (words '/' path) names :=
    mapM_eq_ok_iff.mp read
  intro name member
  obtain ⟨place, inside, rfl⟩ := List.mem_iff_getElem.mp member
  have isWord := each.length_eq ▸ inside
  exact ne_empty_of_segment (some _ (List.getElem_mem isWord)) (each.get isWord inside)

theorem select_of_read {reader : Reader} {now : Int64} {uri : String} {query : Descriptor}
    {path : List String} (read : reader.read now uri = .ok query)
    (segmented : segments (splitUri uri.toList).1 = .ok path) :
    select path = .ok ⟨query.context, query.metric.name, query.tag⟩ := by
  rw [read_eq_make, segmented] at read
  obtain ⟨selection, selected, read⟩ := bind_eq_ok.mp read
  obtain ⟨parameters, _, made⟩ := bind_eq_ok.mp read
  cases made
  rw [show select path = .ok selection from selected]
  simp only [Descriptor.make, Metric.name_ofName]

/-- An accepted path without dots in its segments writes a subject with simple names. -/
theorem exists_simple_subject {reader : Reader} {now : Int64} {uri : String} {query : Descriptor}
    {path : List String} (read : reader.read now uri = .ok query)
    (segmented : segments (splitUri uri.toList).1 = .ok path)
    (dotless : ∀ segment ∈ path, '.' ∉ segment.toList) :
    ∃ subject : Subject, subject.WrittenBy path ∧ subject.IsSimple ∧
      subject.selection = ⟨query.context, query.metric.name, query.tag⟩ := by
  obtain ⟨subject, written, selects⟩ :=
    (select_eq_ok_iff.mp (select_of_read read segmented)).exists_subject
  have simple : ∀ segment ∈ path, Simple segment := fun segment member =>
    ⟨ne_empty_of_segments segmented segment member, dotless segment member⟩
  exact ⟨subject, written, written.simple simple, selects⟩

/-- Two accepted URIs that ask for the same rows in the same kind of context have paths that spell one
sentence, if no segment has a dot: segment by segment they have the same names and spell the same
words, apart from the place of the dataset of a whole program. -/
theorem exists_subject_of_read {reader other : Reader} {now later : Int64} {left right : String}
    {leftQuery rightQuery : Descriptor} {leftPath rightPath : List String}
    (leftRead : reader.read now left = .ok leftQuery)
    (rightRead : other.read later right = .ok rightQuery)
    (leftSegments : segments (splitUri left.toList).1 = .ok leftPath)
    (rightSegments : segments (splitUri right.toList).1 = .ok rightPath)
    (kind : contextKind? leftPath = contextKind? rightPath)
    (leftDotless : ∀ segment ∈ leftPath, '.' ∉ segment.toList)
    (rightDotless : ∀ segment ∈ rightPath, '.' ∉ segment.toList)
    (context : leftQuery.context = rightQuery.context)
    (metric : leftQuery.metric.name = rightQuery.metric.name)
    (tag : leftQuery.tag = rightQuery.tag) :
    ∃ (subject : Subject) (parts others : List Part), subject.Sentence parts ∧
      subject.Sentence others ∧ Interchanged parts others ∧
      Spelling parts leftPath ∧ Spelling others rightPath ∧
      subject.selection = ⟨leftQuery.context, leftQuery.metric.name, leftQuery.tag⟩ := by
  obtain ⟨subject, leftWritten, leftSimple, leftSelects⟩ :=
    exists_simple_subject leftRead leftSegments leftDotless
  obtain ⟨same, rightWritten, rightSimple, rightSelects⟩ :=
    exists_simple_subject rightRead rightSegments rightDotless
  rw [leftWritten.contextKind?_eq, rightWritten.contextKind?_eq] at kind
  have selection : subject.selection = same.selection := by
    rw [leftSelects, rightSelects, context, metric, tag]
  obtain rfl := Subject.eq_of_selection leftSimple rightSimple (Option.some.inj kind) selection
  obtain ⟨parts, sentence, spelling⟩ := leftWritten
  obtain ⟨others, otherSentence, otherSpelling⟩ := rightWritten
  exact ⟨subject, parts, others, sentence, otherSentence, sentence.interchanged otherSentence,
    spelling, otherSpelling, leftSelects⟩

theorem exists_subject_of_read_stock :
    let left := "store/bytes/apps/shop/MapReduce/buy/datasets/stock?count=5"
    let right := "/Store//bytes/DataSets/stock/shop/batch/%62uy?aggregate=true"
    let leftPath := ["store", "bytes", "apps", "shop", "MapReduce", "buy", "datasets", "stock"]
    let rightPath := ["Store", "bytes", "DataSets", "stock", "shop", "batch", "buy"]
    (Reader.mk 2 100).read 10002 left = .ok ⟨left, .timeSeries, some "shop.b.buy", .named "bytes",
        some "stock", none, 9995, 10000, 5⟩ ∧
      Reader.standard.read 0 right = .ok ⟨right, .aggregate, some "shop.b.buy", .named "bytes",
        some "stock", none, 0, 0, 0⟩ ∧
      ∃ parts others : List Part, Interchanged parts others ∧ Spelling parts leftPath ∧
        Spelling others rightPath := by
  intro left right leftPath rightPath
  have leftRead : (Reader.mk 2 100).read 10002 left = .ok ⟨left, .timeSeries, some "shop.b.buy",
      .named "bytes", some "stock", none, 9995, 10000, 5⟩ := by decide +kernel
  have rightRead : Reader.standard.read 0 right = .ok ⟨right, .aggregate, some "shop.b.buy",
      .named "bytes", some "stock", none, 0, 0, 0⟩ := by decide +kernel
  have leftSegments : segments (splitUri left.toList).1 = .ok leftPath := by decide +kernel
  have rightSegments : segments (splitUri right.toList).1 = .ok rightPath := by decide +kernel
  obtain ⟨_, parts, others, _, _, interchanged, leftSpelling, rightSpelling, _⟩ :=
    exists_subject_of_read leftRead rightRead leftSegments rightSegments (by decide +kernel)
      (by decide +kernel) (by decide +kernel) rfl rfl rfl
  exact ⟨leftRead, rightRead, parts, others, interchanged, leftSpelling, rightSpelling⟩

end SeriesQuery.Query
