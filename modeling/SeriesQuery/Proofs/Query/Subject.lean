import Mathlib.Data.List.Forall2
import SeriesQuery.Proofs.Query.Accepted

set_option autoImplicit false

/-!
# What a path is about

A path puts what it is about into a sentence of words and names. Only the words can be spelled in
several ways, and only the dataset of a whole program can stand at two places, before the program or
after it. Every accepted path writes such a subject, and it selects what the subject says.
-/

namespace SeriesQuery.Query

open SeriesQuery.Text

/-! ## Sentences -/

/-- What a segment is to the grammar: a word with its meaning, or a name as it stands. -/
inductive Part where
  | context (kind : ContextKind)
  | collect (branch : CollectBranch)
  | store (branch : StoreBranch)
  | program (kind : ProgramKind)
  | phase (phase : BatchPhase)
  | name (text : String)

/-- A word is written by each of its spellings, a name by nothing but itself. -/
def Part.SpelledBy : Part → String → Prop
  | .context kind, segment => kind.NamedBy segment
  | .collect branch, segment => branch.NamedBy segment
  | .store branch, segment => branch.NamedBy segment
  | .program kind, segment => kind.NamedBy segment
  | .phase step, segment => step.NamedBy segment
  | .name text, segment => text = segment

/-- A path writes a sentence, one segment a part. -/
abbrev Spelling : List Part → List String → Prop :=
  List.Forall₂ Part.SpelledBy

theorem spelling_names (names : List String) : Spelling (names.map .name) names := by
  induction names with
  | nil => exact .nil
  | cons name names ih => exact .cons rfl ih

theorem Spelling.append {left right : List Part} {path rest : List String}
    (spelling : Spelling left path) (others : Spelling right rest) :
    Spelling (left ++ right) (path ++ rest) :=
  List.rel_append spelling others

/-! ## Subjects -/

/-- A program of an application. -/
@[ext] structure Program where
  app : String
  kind : ProgramKind
  name : String

@[simp] def Program.parts (whole : Program) : List Part :=
  [.name whole.app, .program whole.kind, .name whole.name]

/-- The components of the program's context. -/
@[simp] def Program.names (whole : Program) : List String :=
  [whole.app, whole.kind.code, whole.name]

/-- What a collect path may be about, besides its metric. -/
inductive Collected where
  | application (app : String)
  | stream (id : String)
  | streamProgram (id : String) (whole : Program)

def Collected.parts : Collected → List Part
  | .application app => [.collect .apps, .name app]
  | .stream id => [.collect .streams, .name id]
  | .streamProgram id whole => .collect .streams :: .name id :: whole.parts

def Collected.context : Collected → Option (List String)
  | .application app => some [app]
  | .stream _ => none
  | .streamProgram _ whole => some whole.names

def Collected.tag : Collected → Option String
  | .application _ => none
  | .stream id => some id
  | .streamProgram id _ => some id

/-- What a process or query path may be about, besides its metric. -/
inductive Processed where
  | application (app : String)
  | program (whole : Program)
  | phase (app job : String) (step : BatchPhase)
  | task (app job : String) (step : BatchPhase) (id : String)
  | suffix (whole : Program) (notBatch : whole.kind ≠ .batch) (last : String)
  | component (whole : Program) (notBatch : whole.kind ≠ .batch) (id first : String)
      (more : List String)

def Processed.parts : Processed → List Part
  | .application app => [.name app]
  | .program whole => whole.parts
  | .phase app job step => (Program.mk app .batch job).parts ++ [.phase step]
  | .task app job step id => (Program.mk app .batch job).parts ++ [.phase step, .name id]
  | .suffix whole _ last => whole.parts ++ [.name last]
  | .component whole _ id first more => whole.parts ++ (id :: first :: more).map .name

def Processed.context : Processed → List String
  | .application app => [app]
  | .program whole => whole.names
  | .phase app job step => (Program.mk app .batch job).names ++ [step.code]
  | .task app job step id => (Program.mk app .batch job).names ++ [step.code, id]
  | .suffix whole _ _ => whole.names
  | .component whole _ id _ _ => whole.names ++ [id]

/-- The components that go on with the name of the metric. -/
def Processed.metric : Processed → List String
  | .suffix _ _ last => [last]
  | .component _ _ _ first more => first :: more
  | _ => []

/-- How much of a program a store path may be about. -/
inductive Portion where
  | whole (program : Program)
  | flowlet (app flow id : String)
  | phase (app job : String) (step : BatchPhase)

def Portion.parts : Portion → List Part
  | .whole program => program.parts
  | .flowlet app flow id => (Program.mk app .flows flow).parts ++ [.name id]
  | .phase app job step => (Program.mk app .batch job).parts ++ [.phase step]

def Portion.names : Portion → List String
  | .whole program => program.names
  | .flowlet app flow id => (Program.mk app .flows flow).names ++ [id]
  | .phase app job step => (Program.mk app .batch job).names ++ [step.code]

/-- What a store path may be about, besides its metric. -/
inductive Stored where
  | application (app : String)
  | program (portion : Portion) (id : Option String)
  | dataset (id : String)

/-- The sentences for what a store path is about. The dataset of a whole program has two places. -/
inductive Stored.Sentence : Stored → List Part → Prop where
  | application {app : String} : Sentence (.application app) [.store .apps, .name app]
  | program {portion : Portion} :
      Sentence (.program portion none) (.store .apps :: portion.parts)
  | datasetLast {portion : Portion} {id : String} :
      Sentence (.program portion (some id))
        (.store .apps :: (portion.parts ++ [.store .datasets, .name id]))
  | datasetFirst {whole : Program} {id : String} :
      Sentence (.program (.whole whole) (some id))
        (.store .datasets :: .name id :: whole.parts)
  | dataset {id : String} : Sentence (.dataset id) [.store .datasets, .name id]

def Stored.context : Stored → Option (List String)
  | .application app => some [app]
  | .program portion _ => some portion.names
  | .dataset _ => none

def Stored.tag : Stored → Option String
  | .application _ => none
  | .program _ id => id
  | .dataset id => some id

/-- What a path is about. Only a store path may leave out its metric, if more follows. -/
inductive Subject where
  | metric (kind : ContextKind) (name : String)
  | collect (name : String) (what : Collected)
  | process (kind : ContextKind) (runs : kind = .process ∨ kind = .query) (name : String)
      (what : Processed)
  | store (name : Option String) (what : Stored)

namespace Subject

inductive Sentence : Subject → List Part → Prop where
  | metric {kind : ContextKind} {name : String} :
      Sentence (.metric kind name) [.context kind, .name name]
  | collect {name : String} {what : Collected} :
      Sentence (.collect name what) (.context .collect :: .name name :: what.parts)
  | process {kind : ContextKind} {runs : kind = .process ∨ kind = .query} {name : String}
      {what : Processed} :
      Sentence (.process kind runs name what) (.context kind :: .name name :: what.parts)
  | store {name : String} {what : Stored} {parts : List Part} : what.Sentence parts →
      Sentence (.store (some name) what) (.context .store :: .name name :: parts)
  | everyMetric {what : Stored} {parts : List Part} : what.Sentence parts →
      Sentence (.store none what) (.context .store :: parts)

/-- A path writes a subject if it spells a sentence for it. -/
def WrittenBy (subject : Subject) (path : List String) : Prop :=
  ∃ parts, subject.Sentence parts ∧ Spelling parts path

def kind : Subject → ContextKind
  | .metric kind _ => kind
  | .collect _ _ => .collect
  | .process kind _ _ _ => kind
  | .store _ _ => .store

/-- The components of the context; none if every context is meant. -/
def contextNames : Subject → Option (List String)
  | .metric _ _ => none
  | .collect _ what => what.context
  | .process _ _ _ what => some what.context
  | .store _ what => what.context

/-- The components of the metric; none of them means every metric. -/
def metricNames : Subject → List String
  | .metric _ name => [name]
  | .collect name _ => [name]
  | .process _ _ name what => name :: what.metric
  | .store name _ => name.toList

def tag : Subject → Option String
  | .metric _ _ => none
  | .collect _ what => what.tag
  | .process _ _ _ _ => none
  | .store _ what => what.tag

/-- What a subject selects. -/
def selection (subject : Subject) : Selection where
  context := subject.contextNames.map (".".intercalate ·)
  metric := ".".intercalate subject.metricNames
  tag := subject.tag

end Subject

/-! ## Sentences for one subject -/

/-- Two sentences are the same, but the dataset of a whole program may stand after the program in one
and before it in the other. -/
inductive Interchanged : List Part → List Part → Prop where
  | same {parts : List Part} : Interchanged parts parts
  | dataset {metric : Option String} {whole : Program} {id : String} :
      Interchanged
        (.context .store :: (metric.toList.map .name ++
          .store .apps :: (whole.parts ++ [.store .datasets, .name id])))
        (.context .store :: (metric.toList.map .name ++
          .store .datasets :: .name id :: whole.parts))
  | symm {parts others : List Part} : Interchanged parts others → Interchanged others parts

theorem Stored.Sentence.interchanged {what : Stored} {parts others : List Part}
    (sentence : what.Sentence parts) (other : what.Sentence others) (metric : Option String) :
    Interchanged (.context .store :: (metric.toList.map .name ++ parts))
      (.context .store :: (metric.toList.map .name ++ others)) := by
  cases sentence with
  | application | program | dataset =>
      cases other
      exact .same
  | datasetLast =>
      cases other with
      | datasetLast => exact .same
      | datasetFirst => exact .dataset
  | datasetFirst =>
      cases other with
      | datasetLast => exact .symm .dataset
      | datasetFirst => exact .same

theorem Subject.Sentence.interchanged {subject : Subject} {parts others : List Part}
    (sentence : subject.Sentence parts) (other : subject.Sentence others) :
    Interchanged parts others := by
  cases sentence with
  | metric | collect | process =>
      cases other
      exact .same
  | @store name _ _ stored =>
      cases other with
      | store otherStored => exact stored.interchanged otherStored (some name)
  | everyMetric stored =>
      cases other with
      | everyMetric otherStored => exact stored.interchanged otherStored none

/-! ## Subjects of accepted paths -/

theorem ProgramForm.exists_program {path : List String} {kind : ProgramKind} {context : String}
    (form : ProgramForm path kind context) :
    ∃ whole : Program, whole.kind = kind ∧ Spelling whole.parts path ∧
      context = ".".intercalate whole.names := by
  obtain ⟨app, token, name, rfl⟩ := form.exists_eq
  obtain ⟨named, rfl⟩ := programForm_iff.mp form
  have named := ProgramKind.ofToken?_eq_some_iff.mp named
  exact ⟨⟨app, kind, name⟩, rfl, .cons rfl (.cons named (.cons rfl .nil)), rfl⟩

theorem PhaseForm.exists_phase {token code : String} (form : PhaseForm token code) :
    ∃ step : BatchPhase, step.NamedBy token ∧ code = step.code := by
  obtain ⟨step, named, rfl⟩ := phaseForm_iff.mp form
  exact ⟨step, BatchPhase.ofToken?_eq_some_iff.mp named, rfl⟩

theorem CollectForm.exists_collected {path : List String} {context tag : Option String}
    (form : CollectForm path context tag) :
    ∃ what : Collected, Spelling what.parts path ∧
      context = what.context.map (".".intercalate ·) ∧ tag = what.tag := by
  cases form with
  | application spelled => exact ⟨.application _, .cons spelled (.cons rfl .nil), rfl, rfl⟩
  | stream spelled => exact ⟨.stream _, .cons spelled (.cons rfl .nil), rfl, rfl⟩
  | streamProgram spelled form =>
      obtain ⟨whole, _, written, rfl⟩ := form.exists_program
      exact ⟨.streamProgram _ whole, .cons spelled (.cons rfl written), rfl, rfl⟩

theorem ProcessForm.exists_processed {metric context name : String} {path : List String}
    (form : ProcessForm metric path context name) :
    ∃ what : Processed, Spelling what.parts path ∧ context = ".".intercalate what.context ∧
      name = ".".intercalate (metric :: what.metric) := by
  cases form with
  | application => exact ⟨.application _, .cons rfl .nil, rfl, rfl⟩
  | program form component =>
      obtain ⟨whole, rfl, written, rfl⟩ := form.exists_program
      obtain ⟨app, kind, program⟩ := whole
      cases component with
      | whole =>
          rw [List.append_nil]
          exact ⟨.program _, written, rfl, rfl⟩
      | phase phaseForm =>
          obtain ⟨step, named, rfl⟩ := phaseForm.exists_phase
          exact ⟨.phase app program step, written.append (.cons named .nil), rfl, rfl⟩
      | task phaseForm =>
          obtain ⟨step, named, rfl⟩ := phaseForm.exists_phase
          exact ⟨.task app program step _, written.append (.cons named (.cons rfl .nil)), rfl, rfl⟩
      | suffix notBatch =>
          exact ⟨.suffix _ notBatch _, written.append (spelling_names [_]), rfl, rfl⟩
      | component notBatch =>
          exact ⟨.component _ notBatch _ _ _, written.append (spelling_names _), rfl, rfl⟩

theorem PartForm.exists_portion {whole : Program} {path part : List String} {context : String}
    (written : Spelling whole.parts path)
    (form : PartForm (".".intercalate whole.names) whole.kind part context) :
    ∃ portion : Portion, Spelling portion.parts (path ++ part) ∧
      context = ".".intercalate portion.names := by
  obtain ⟨app, kind, program⟩ := whole
  cases form with
  | whole =>
      rw [List.append_nil]
      exact ⟨.whole _, written, rfl⟩
  | flowlet _ => exact ⟨.flowlet app program _, written.append (spelling_names [_]), rfl⟩
  | phase form =>
      obtain ⟨step, named, rfl⟩ := form.exists_phase
      exact ⟨.phase app program step, written.append (.cons named .nil), rfl⟩

theorem StoreForm.exists_stored {path : List String} {context tag : Option String}
    (form : StoreForm path context tag) :
    ∃ (what : Stored) (parts : List Part), what.Sentence parts ∧ Spelling parts path ∧
      context = what.context.map (".".intercalate ·) ∧ tag = what.tag := by
  cases form with
  | application spelled =>
      exact ⟨.application _, _, .application, .cons spelled (.cons rfl .nil), rfl, rfl⟩
  | program spelled form part dataset =>
      obtain ⟨whole, rfl, written, rfl⟩ := form.exists_program
      obtain ⟨portion, written, rfl⟩ := part.exists_portion written
      rw [← List.append_assoc]
      cases dataset with
      | none =>
          rw [List.append_nil]
          exact ⟨.program portion none, _, .program, .cons spelled written, rfl, rfl⟩
      | dataset marked =>
          exact ⟨.program portion (some _), _, .datasetLast,
            .cons spelled (written.append (.cons marked (.cons rfl .nil))), rfl, rfl⟩
  | dataset spelled => exact ⟨.dataset _, _, .dataset, .cons spelled (.cons rfl .nil), rfl, rfl⟩
  | datasetProgram spelled form =>
      obtain ⟨whole, _, written, rfl⟩ := form.exists_program
      exact ⟨.program (.whole whole) (some _), _, .datasetFirst, .cons spelled (.cons rfl written),
        rfl, rfl⟩

/-- An accepted path writes a subject, and it selects what the subject does. -/
theorem Selects.exists_subject {path : List String} {selection : Selection}
    (form : Selects path selection) :
    ∃ subject : Subject, subject.WrittenBy path ∧ subject.selection = selection := by
  cases form with
  | @metric _ _ kind named =>
      exact ⟨.metric kind _, ⟨_, .metric, .cons named (.cons rfl .nil)⟩, by
        rw [Subject.selection, Subject.metricNames, String.intercalate_singleton]
        rfl⟩
  | collect spelled form =>
      obtain ⟨what, written, rfl, rfl⟩ := form.exists_collected
      exact ⟨.collect _ what, ⟨_, .collect, .cons spelled (.cons rfl written)⟩, rfl⟩
  | process spelled form =>
      obtain ⟨what, written, rfl, rfl⟩ := form.exists_processed
      rcases spelled with spelled | spelled
      · exact ⟨.process .process (.inl rfl) _ what,
          ⟨_, .process, .cons spelled (.cons rfl written)⟩, rfl⟩
      · exact ⟨.process .query (.inr rfl) _ what,
          ⟨_, .process, .cons spelled (.cons rfl written)⟩, rfl⟩
  | store spelled form =>
      obtain ⟨what, parts, sentence, written, rfl, rfl⟩ := form.exists_stored
      exact ⟨.store (some _) what, ⟨_, .store sentence, .cons spelled (.cons rfl written)⟩, rfl⟩
  | everyMetric spelled _ _ form =>
      obtain ⟨what, parts, sentence, written, rfl, rfl⟩ := form.exists_stored
      exact ⟨.store none what, ⟨_, .everyMetric sentence, .cons spelled written⟩, rfl⟩

end SeriesQuery.Query
