import SeriesQuery.Proofs.Query.Words
import SeriesQuery.Query.Selection

set_option autoImplicit false

/-!
# The accepted forms of a path

The forms of a path that are accepted, with the context, the metric and the tag that they select, one
constructor a form. A path is accepted if and only if it has one of these forms, and then it selects
what the form says.
-/

namespace SeriesQuery.Query

open SeriesQuery.Text

/-! ## The forms -/

/-- An application, a kind of program and a program write a context. -/
inductive ProgramForm : List String → ProgramKind → String → Prop where
  | flows {app token program : String} : Spells token "flows" →
      ProgramForm [app, token, program] .flows (app ++ "." ++ "f" ++ "." ++ program)
  | batch {app token program : String} : Spells token "batch" ∨ Spells token "mapreduce" →
      ProgramForm [app, token, program] .batch (app ++ "." ++ "b" ++ "." ++ program)
  | procedures {app token program : String} : Spells token "procedures" →
      ProgramForm [app, token, program] .procedures (app ++ "." ++ "p" ++ "." ++ program)

/-- A phase of a batch job has a code. -/
inductive PhaseForm : String → String → Prop where
  | mappers {token : String} : Spells token "mappers" → PhaseForm token "m"
  | reducers {token : String} : Spells token "reducers" → PhaseForm token "r"

/-- What may follow the metric of a collect path, with the context and the tag that it selects. -/
inductive CollectForm : List String → Option String → Option String → Prop where
  | application {branch app : String} : Spells branch "apps" →
      CollectForm [branch, app] (some app) none
  | stream {branch stream : String} : Spells branch "streams" →
      CollectForm [branch, stream] none (some stream)
  | streamProgram {branch stream context : String} {program : List String} {kind : ProgramKind} :
      Spells branch "streams" → ProgramForm program kind context →
      CollectForm (branch :: stream :: program) (some context) (some stream)

/-- What may follow the program of a process or query path, with the context and the metric that the
whole path selects. -/
inductive ComponentForm (whole metric : String) :
    ProgramKind → List String → String → String → Prop where
  | whole {kind : ProgramKind} : ComponentForm whole metric kind [] whole metric
  | phase {token code : String} : PhaseForm token code →
      ComponentForm whole metric .batch [token] (whole ++ "." ++ code) metric
  | task {token code task : String} : PhaseForm token code →
      ComponentForm whole metric .batch [token, task] (whole ++ "." ++ code ++ "." ++ task) metric
  | suffix {kind : ProgramKind} {suffix : String} : kind ≠ .batch →
      ComponentForm whole metric kind [suffix] whole (metric ++ "." ++ suffix)
  | component {kind : ProgramKind} {component suffix : String} {suffixes : List String} :
      kind ≠ .batch →
      ComponentForm whole metric kind (component :: suffix :: suffixes)
        (whole ++ "." ++ component) (".".intercalate (metric :: suffix :: suffixes))

/-- What may follow the metric of a process or query path. -/
inductive ProcessForm (metric : String) : List String → String → String → Prop where
  | application {app : String} : ProcessForm metric [app] app metric
  | program {program rest : List String} {kind : ProgramKind} {whole context name : String} :
      ProgramForm program kind whole → ComponentForm whole metric kind rest context name →
      ProcessForm metric (program ++ rest) context name

/-- The part of a program that a store path may name, with the context that it selects. -/
inductive PartForm (whole : String) : ProgramKind → List String → String → Prop where
  | whole {kind : ProgramKind} : PartForm whole kind [] whole
  | flowlet {flowlet : String} : ¬ Spells flowlet "datasets" →
      PartForm whole .flows [flowlet] (whole ++ "." ++ flowlet)
  | phase {token code : String} : PhaseForm token code →
      PartForm whole .batch [token] (whole ++ "." ++ code)

/-- The dataset that a store path may end with. -/
inductive DatasetForm : List String → Option String → Prop where
  | none : DatasetForm [] none
  | dataset {marker dataset : String} : Spells marker "datasets" →
      DatasetForm [marker, dataset] (some dataset)

/-- What may follow the metric of a store path, with the context and the tag that it selects. -/
inductive StoreForm : List String → Option String → Option String → Prop where
  | application {branch app : String} : Spells branch "apps" →
      StoreForm [branch, app] (some app) none
  | program {branch whole context : String} {program part dataset : List String}
      {kind : ProgramKind} {tag : Option String} : Spells branch "apps" →
      ProgramForm program kind whole → PartForm whole kind part context →
      DatasetForm dataset tag →
      StoreForm (branch :: (program ++ (part ++ dataset))) (some context) tag
  | dataset {branch dataset : String} : Spells branch "datasets" →
      StoreForm [branch, dataset] none (some dataset)
  | datasetProgram {branch dataset context : String} {program : List String}
      {kind : ProgramKind} : Spells branch "datasets" → ProgramForm program kind context →
      StoreForm (branch :: dataset :: program) (some context) (some dataset)

/-- The forms of a path, with what they select. -/
inductive Selects : List String → Selection → Prop where
  | metric {token metric : String} {kind : ContextKind} : kind.NamedBy token →
      Selects [token, metric] ⟨none, metric, none⟩
  | collect {token metric : String} {rest : List String} {context tag : Option String} :
      Spells token "collect" → CollectForm rest context tag →
      Selects (token :: metric :: rest) ⟨context, metric, tag⟩
  | process {token metric name context : String} {rest : List String} :
      Spells token "process" ∨ Spells token "query" → ProcessForm metric rest context name →
      Selects (token :: metric :: rest) ⟨some context, name, none⟩
  | store {token metric : String} {rest : List String} {context tag : Option String} :
      Spells token "store" → StoreForm rest context tag →
      Selects (token :: metric :: rest) ⟨context, metric, tag⟩
  /-- A store path may leave out its metric unless what stands in the place of the application or
  the dataset would itself read as `apps` or `datasets`. -/
  | everyMetric {token branch id : String} {rest : List String} {context tag : Option String} :
      Spells token "store" → ¬ Spells id "apps" → ¬ Spells id "datasets" →
      StoreForm (branch :: id :: rest) context tag →
      Selects (token :: branch :: id :: rest) ⟨context, "", tag⟩

end SeriesQuery.Query
