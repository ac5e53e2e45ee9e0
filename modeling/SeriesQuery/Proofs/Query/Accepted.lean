import SeriesQuery.Proofs.Query.Grammar

set_option autoImplicit false

/-!
# Which paths are accepted

Each reader of segments succeeds exactly on the segments that its form describes, with the meaning
that the form gives. From these follows the same for whole paths.
-/

namespace SeriesQuery.Query

open SeriesQuery.Text

/-! ## Single segments -/

theorem takeName_eq_ok_iff {role : Role} {path rest : List String} {name : String} :
    takeName role path = .ok (name, rest) ↔ path = name :: rest := by
  cases path <;> simp [takeName]

theorem readToken_eq_ok_iff {Word : Type} {ofToken? : String → Option Word} {role : Role}
    {token : String} {word : Word} :
    readToken ofToken? role token = .ok word ↔ ofToken? token = some word := by
  rw [readToken]
  cases ofToken? token <;> simp

theorem takeToken_eq_ok_iff {Word : Type} {ofToken? : String → Option Word} {role : Role}
    {path rest : List String} {word : Word} :
    takeToken ofToken? role path = .ok (word, rest) ↔
      ∃ token, path = token :: rest ∧ ofToken? token = some word := by
  cases path with
  | nil => simp [takeToken, takeName, bind_eq_ok]
  | cons token rest =>
      simp only [takeToken, bind_eq_ok, Prod.exists, takeName_eq_ok_iff, readToken_eq_ok_iff]
      constructor
      · intro given
        obtain ⟨name, left, ⟨⟩, found, named, ⟨⟩⟩ := given
        exact ⟨token, rfl, named⟩
      · intro given
        obtain ⟨name, ⟨⟩, named⟩ := given
        exact ⟨token, rest, rfl, word, named, rfl⟩

theorem finish_eq_ok_iff {path : List String} {ended : Unit} :
    finish path = .ok ended ↔ path = [] := by
  cases path <;> simp [finish]

/-! ## Programs -/

theorem programForm_iff {app token program context : String} {kind : ProgramKind} :
    ProgramForm [app, token, program] kind context ↔
      ProgramKind.ofToken? token = some kind ∧ context = programContext app kind program := by
  rw [ProgramKind.ofToken?_eq_some_iff]
  constructor
  · intro form
    cases form with
    | flows spelled => exact ⟨spelled, rfl⟩
    | batch spelled => exact ⟨spelled, rfl⟩
    | procedures spelled => exact ⟨spelled, rfl⟩
  · intro given
    obtain ⟨named, rfl⟩ := given
    cases kind with
    | flows => exact .flows named
    | batch => exact .batch named
    | procedures => exact .procedures named

theorem ProgramForm.exists_eq {path : List String} {kind : ProgramKind} {context : String}
    (form : ProgramForm path kind context) : ∃ app token program, path = [app, token, program] := by
  cases form <;> exact ⟨_, _, _, rfl⟩

theorem takeProgram_eq_ok_iff {app context : String} {path rest : List String}
    {kind : ProgramKind} :
    takeProgram app path = .ok (kind, context, rest) ↔
      ∃ token program, path = token :: program :: rest ∧
        ProgramForm [app, token, program] kind context := by
  simp only [takeProgram, bind_eq_ok, Prod.exists, takeToken_eq_ok_iff, takeName_eq_ok_iff,
    programForm_iff]
  constructor
  · intro given
    obtain ⟨_, _, ⟨token, rfl, named⟩, program, _, rfl, ⟨⟩⟩ := given
    exact ⟨token, program, rfl, named, rfl⟩
  · intro given
    obtain ⟨token, program, rfl, named, rfl⟩ := given
    exact ⟨kind, _, ⟨token, rfl, named⟩, program, rest, rfl, rfl⟩

theorem onlyProgram_eq_ok_iff {path : List String} {context : String} :
    onlyProgram path = .ok context ↔ ∃ kind, ProgramForm path kind context := by
  simp only [onlyProgram, bind_eq_ok, Prod.exists, takeName_eq_ok_iff, takeProgram_eq_ok_iff,
    finish_eq_ok_iff]
  constructor
  · intro given
    obtain ⟨app, _, rfl, kind, _, _, ⟨token, program, rfl, form⟩, _, rfl, ⟨⟩⟩ := given
    exact ⟨kind, form⟩
  · intro given
    obtain ⟨kind, form⟩ := given
    obtain ⟨app, token, program, rfl⟩ := form.exists_eq
    exact ⟨app, _, rfl, kind, context, [], ⟨token, program, rfl, form⟩, (), rfl, rfl⟩

/-! ## Collect paths -/

theorem selectCollect_eq_ok_iff {metric : String} {path : List String} {selection : Selection} :
    selectCollect metric path = .ok selection ↔
      ∃ context tag, CollectForm path context tag ∧ selection = ⟨context, metric, tag⟩ := by
  rw [selectCollect]
  simp only [bind_eq_ok, Prod.exists, takeToken_eq_ok_iff, CollectBranch.ofToken?_eq_some_iff]
  constructor
  · intro given
    obtain ⟨branch, _, ⟨token, rfl, named⟩, selected⟩ := given
    cases branch with
    | apps =>
        simp only [bind_eq_ok, Prod.exists, takeName_eq_ok_iff, finish_eq_ok_iff] at selected
        obtain ⟨app, _, rfl, _, rfl, ⟨⟩⟩ := selected
        exact ⟨_, _, .application named, rfl⟩
    | streams =>
        simp only [bind_eq_ok, Prod.exists, takeName_eq_ok_iff] at selected
        obtain ⟨stream, rest, rfl, selected⟩ := selected
        cases rest with
        | nil =>
            cases selected
            exact ⟨_, _, .stream named, rfl⟩
        | cons app rest =>
            simp only [bind_eq_ok, onlyProgram_eq_ok_iff] at selected
            obtain ⟨context, ⟨kind, form⟩, ⟨⟩⟩ := selected
            exact ⟨_, _, .streamProgram named form, rfl⟩
  · intro given
    obtain ⟨context, tag, form, rfl⟩ := given
    cases form with
    | application spelled =>
        exact ⟨.apps, _, ⟨_, rfl, spelled⟩, rfl⟩
    | stream spelled =>
        exact ⟨.streams, _, ⟨_, rfl, spelled⟩, rfl⟩
    | streamProgram spelled form =>
        refine ⟨.streams, _, ⟨_, rfl, spelled⟩, ?_⟩
        obtain ⟨app, token, program, rfl⟩ := form.exists_eq
        simp only [bind_eq_ok, Prod.exists, takeName_eq_ok_iff]
        exact ⟨_, _, rfl, bind_eq_ok.mpr ⟨_, onlyProgram_eq_ok_iff.mpr ⟨_, form⟩, rfl⟩⟩

/-! ## Process and query paths -/

theorem phaseForm_iff {token code : String} :
    PhaseForm token code ↔
      ∃ phase, BatchPhase.ofToken? token = some phase ∧ code = phase.code := by
  simp only [BatchPhase.ofToken?_eq_some_iff]
  constructor
  · intro form
    cases form with
    | mappers spelled => exact ⟨.mappers, spelled, rfl⟩
    | reducers spelled => exact ⟨.reducers, spelled, rfl⟩
  · intro given
    obtain ⟨phase, named, rfl⟩ := given
    cases phase with
    | mappers => exact .mappers named
    | reducers => exact .reducers named

theorem foldl_join_eq_intercalate (metric : String) (suffixes : List String) :
    suffixes.foldl Dotted.join metric = ".".intercalate (metric :: suffixes) := by
  induction suffixes generalizing metric with
  | nil => rw [List.foldl_nil, String.intercalate_singleton]
  | cons suffix rest ih =>
      rw [List.foldl_cons, ih]
      rfl

theorem selectComponent_eq_ok_iff {kind : ProgramKind} {whole metric : String}
    {path : List String} {selection : Selection} :
    selectComponent kind whole metric path = .ok selection ↔
      ∃ context name, ComponentForm whole metric kind path context name ∧
        selection = ⟨some context, name, none⟩ := by
  unfold selectComponent
  constructor
  · intro selected
    split at selected
    · cases selected
      exact ⟨_, _, .whole, rfl⟩
    · next token rest =>
        simp only [bind_eq_ok, readToken_eq_ok_iff] at selected
        obtain ⟨phase, named, selected⟩ := selected
        have form := phaseForm_iff.mpr ⟨phase, named, rfl⟩
        cases rest with
        | nil =>
            cases selected
            exact ⟨_, _, .phase form, rfl⟩
        | cons task rest =>
            simp only [bind_eq_ok, finish_eq_ok_iff] at selected
            obtain ⟨_, rfl, ⟨⟩⟩ := selected
            exact ⟨_, _, .task form, rfl⟩
    · next suffix notBatch =>
        cases selected
        exact ⟨_, _, .suffix notBatch, rfl⟩
    · next component suffixes several notBatch =>
        cases selected
        cases suffixes with
        | nil => exact absurd rfl several
        | cons suffix suffixes =>
            exact ⟨_, _, .component notBatch, by rw [foldl_join_eq_intercalate]; rfl⟩
  · intro given
    obtain ⟨context, name, form, rfl⟩ := given
    cases form with
    | whole => rfl
    | phase form =>
        obtain ⟨phase, named, rfl⟩ := phaseForm_iff.mp form
        simp only [bind_eq_ok, readToken_eq_ok_iff]
        exact ⟨phase, named, rfl⟩
    | task form =>
        obtain ⟨phase, named, rfl⟩ := phaseForm_iff.mp form
        simp only [bind_eq_ok, readToken_eq_ok_iff]
        exact ⟨phase, named, (), rfl, rfl⟩
    | suffix notBatch =>
        cases kind with
        | batch => exact absurd rfl notBatch
        | flows | procedures => rfl
    | component notBatch =>
        rw [← foldl_join_eq_intercalate]
        cases kind with
        | batch => exact absurd rfl notBatch
        | flows | procedures => rfl

theorem selectProcess_eq_ok_iff {metric : String} {path : List String} {selection : Selection} :
    selectProcess metric path = .ok selection ↔
      ∃ context name, ProcessForm metric path context name ∧
        selection = ⟨some context, name, none⟩ := by
  simp only [selectProcess, bind_eq_ok, Prod.exists, takeName_eq_ok_iff]
  constructor
  · intro given
    obtain ⟨app, rest, rfl, selected⟩ := given
    cases rest with
    | nil =>
        cases selected
        exact ⟨_, _, .application, rfl⟩
    | cons token rest =>
        simp only [bind_eq_ok, Prod.exists, takeProgram_eq_ok_iff, selectComponent_eq_ok_iff]
          at selected
        obtain ⟨kind, whole, left, ⟨_, program, ⟨⟩, form⟩, context, name, component, rfl⟩ :=
          selected
        exact ⟨context, name, .program form component, rfl⟩
  · intro given
    obtain ⟨context, name, form, rfl⟩ := given
    cases form with
    | application => exact ⟨_, _, rfl, rfl⟩
    | @program _ rest _ _ _ _ form component =>
        obtain ⟨app, token, program, rfl⟩ := form.exists_eq
        refine ⟨app, token :: program :: rest, rfl, ?_⟩
        simp only [bind_eq_ok, Prod.exists, takeProgram_eq_ok_iff, selectComponent_eq_ok_iff]
        exact ⟨_, _, _, ⟨token, program, rfl, form⟩, _, _, component, rfl⟩

/-! ## Store paths -/

theorem takePart_form (kind : ProgramKind) (whole : String) (path : List String) :
    ∃ part, path = part ++ (takePart kind whole path).2 ∧
      PartForm whole kind part (takePart kind whole path).1 := by
  unfold takePart
  split
  · next part rest =>
      split
      · exact ⟨[], rfl, .whole⟩
      · next other =>
          exact ⟨[part], rfl, .flowlet (mt StoreBranch.ofToken?_eq_datasets_iff.mpr other)⟩
  · next token rest =>
      split
      · next phase named => exact ⟨[token], rfl, .phase (phaseForm_iff.mpr ⟨phase, named, rfl⟩)⟩
      · exact ⟨[], rfl, .whole⟩
  · exact ⟨[], rfl, .whole⟩

/-- The part that is taken ends where a dataset is named, for `datasets` is no phase. -/
theorem takePart_append {kind : ProgramKind} {whole context : String}
    {part dataset : List String} {tag : Option String} (form : PartForm whole kind part context)
    (ended : DatasetForm dataset tag) :
    takePart kind whole (part ++ dataset) = (context, dataset) := by
  cases form with
  | flowlet other =>
      simp only [takePart, List.cons_append, List.nil_append,
        if_neg (mt StoreBranch.ofToken?_eq_datasets_iff.mp other)]
      rfl
  | phase form =>
      obtain ⟨phase, named, rfl⟩ := phaseForm_iff.mp form
      simp only [takePart, List.cons_append, List.nil_append, named]
      rfl
  | whole =>
      cases ended with
      | none => cases kind <;> rfl
      | @dataset marker _ spelled =>
          have marked : StoreBranch.ofToken? marker = some .datasets :=
            StoreBranch.ofToken?_eq_datasets_iff.mpr spelled
          cases kind with
          | flows => simp only [takePart, List.nil_append, marked, ↓reduceIte]
          | batch =>
              have noPhase : BatchPhase.ofToken? marker = none := by
                rw [Option.eq_none_iff_forall_ne_some]
                intro phase named
                have named := BatchPhase.ofToken?_eq_some_iff.mp named
                cases phase with
                | mappers => exact absurd (spelled.unique named) (by decide)
                | reducers => exact absurd (spelled.unique named) (by decide)
              simp only [takePart, List.nil_append, noPhase]
          | procedures => rfl

theorem selectDataset_eq_ok_iff {context metric : String} {path : List String}
    {selection : Selection} :
    selectDataset context metric path = .ok selection ↔
      ∃ tag, DatasetForm path tag ∧ selection = ⟨some context, metric, tag⟩ := by
  unfold selectDataset
  cases path with
  | nil =>
      constructor
      · intro given
        cases given
        exact ⟨_, .none, rfl⟩
      · intro given
        obtain ⟨tag, ⟨⟩, rfl⟩ := given
        rfl
  | cons marker rest =>
      simp only [bind_eq_ok, Prod.exists, takeToken_eq_ok_iff, StoreBranch.ofToken?_eq_some_iff]
      constructor
      · intro given
        obtain ⟨branch, _, ⟨_, ⟨⟩, named⟩, selected⟩ := given
        cases branch with
        | apps => cases selected
        | datasets =>
            simp only [bind_eq_ok, Prod.exists, takeName_eq_ok_iff, finish_eq_ok_iff] at selected
            obtain ⟨dataset, _, rfl, _, rfl, ⟨⟩⟩ := selected
            exact ⟨_, .dataset named, rfl⟩
      · intro given
        obtain ⟨tag, form, rfl⟩ := given
        cases form with
        | dataset spelled => exact ⟨.datasets, _, ⟨_, rfl, spelled⟩, rfl⟩

theorem selectStore_eq_ok_iff {metric : String} {path : List String} {selection : Selection} :
    selectStore metric path = .ok selection ↔
      ∃ context tag, StoreForm path context tag ∧ selection = ⟨context, metric, tag⟩ := by
  simp only [selectStore, bind_eq_ok, Prod.exists, takeToken_eq_ok_iff,
    StoreBranch.ofToken?_eq_some_iff]
  constructor
  · intro given
    obtain ⟨branch, _, ⟨token, rfl, named⟩, selected⟩ := given
    cases branch with
    | apps =>
        simp only [bind_eq_ok, Prod.exists, takeName_eq_ok_iff] at selected
        obtain ⟨app, rest, rfl, selected⟩ := selected
        cases rest with
        | nil =>
            cases selected
            exact ⟨_, _, .application named, rfl⟩
        | cons type rest =>
            simp only [bind_eq_ok, Prod.exists, takeProgram_eq_ok_iff, selectDataset_eq_ok_iff]
              at selected
            obtain ⟨kind, whole, left, ⟨_, program, ⟨⟩, form⟩, tag, dataset, rfl⟩ := selected
            obtain ⟨part, split, partForm⟩ := takePart_form kind whole left
            generalize takePart kind whole left = taken at split partForm dataset
            subst split
            exact ⟨_, _, .program named form partForm dataset, rfl⟩
    | datasets =>
        simp only [bind_eq_ok, Prod.exists, takeName_eq_ok_iff] at selected
        obtain ⟨dataset, rest, rfl, selected⟩ := selected
        cases rest with
        | nil =>
            cases selected
            exact ⟨_, _, .dataset named, rfl⟩
        | cons app rest =>
            simp only [bind_eq_ok, onlyProgram_eq_ok_iff] at selected
            obtain ⟨context, ⟨kind, form⟩, ⟨⟩⟩ := selected
            exact ⟨_, _, .datasetProgram named form, rfl⟩
  · intro given
    obtain ⟨context, tag, form, rfl⟩ := given
    cases form with
    | application spelled => exact ⟨.apps, _, ⟨_, rfl, spelled⟩, rfl⟩
    | @program _ whole context _ part dataset kind _ spelled form partForm ended =>
        obtain ⟨app, token, program, rfl⟩ := form.exists_eq
        refine ⟨.apps, app :: token :: program :: (part ++ dataset), ⟨_, rfl, spelled⟩, ?_⟩
        simp only [bind_eq_ok, Prod.exists, takeName_eq_ok_iff]
        refine ⟨app, token :: program :: (part ++ dataset), rfl, ?_⟩
        simp only [bind_eq_ok, Prod.exists, takeProgram_eq_ok_iff, selectDataset_eq_ok_iff]
        refine ⟨kind, whole, part ++ dataset, ⟨token, program, rfl, form⟩, tag, ?_⟩
        rw [takePart_append partForm ended]
        exact ⟨ended, rfl⟩
    | dataset spelled => exact ⟨.datasets, _, ⟨_, rfl, spelled⟩, rfl⟩
    | datasetProgram spelled form =>
        obtain ⟨app, token, program, rfl⟩ := form.exists_eq
        refine ⟨.datasets, _, ⟨_, rfl, spelled⟩, ?_⟩
        simp only [bind_eq_ok, Prod.exists, takeName_eq_ok_iff]
        exact ⟨_, _, rfl, bind_eq_ok.mpr ⟨_, onlyProgram_eq_ok_iff.mpr ⟨_, form⟩, rfl⟩⟩

/-! ## Whole paths -/

theorem omitsMetric_iff {path : List String} :
    omitsMetric path = true ↔
      ∃ branch id rest, path = branch :: id :: rest ∧ (∃ kind, StoreBranch.NamedBy branch kind) ∧
        ¬ Spells id "apps" ∧ ¬ Spells id "datasets" := by
  unfold omitsMetric
  split
  · next branch id rest =>
      rw [Bool.and_eq_true, Option.isNone_iff_eq_none, StoreBranch.ofToken?_eq_none_iff,
        Option.isSome_iff_exists]
      simp only [StoreBranch.ofToken?_eq_some_iff]
      constructor
      · exact fun omits => ⟨branch, id, rest, rfl, omits⟩
      · intro given
        obtain ⟨_, _, _, ⟨⟩, omits⟩ := given
        exact omits
  · next short =>
      constructor
      · intro given
        cases given
      · intro given
        obtain ⟨branch, id, rest, rfl, _⟩ := given
        exact (short branch id rest rfl).elim

theorem StoreForm.exists_branch {path : List String} {context tag : Option String}
    (form : StoreForm path context tag) :
    ∃ branch rest, path = branch :: rest ∧ ∃ kind, StoreBranch.NamedBy branch kind := by
  cases form with
  | application spelled | program spelled => exact ⟨_, _, rfl, .apps, spelled⟩
  | dataset spelled | datasetProgram spelled => exact ⟨_, _, rfl, .datasets, spelled⟩

theorem ProcessForm.exists_cons {metric context name : String} {path : List String}
    (form : ProcessForm metric path context name) : ∃ next rest, path = next :: rest := by
  cases form with
  | application => exact ⟨_, _, rfl⟩
  | program form _ =>
      obtain ⟨app, token, program, rfl⟩ := form.exists_eq
      exact ⟨_, _, rfl⟩

theorem Selects.of_select {path : List String} {selection : Selection}
    (selected : select path = .ok selection) : Selects path selection := by
  simp only [select, bind_eq_ok, Prod.exists, takeToken_eq_ok_iff,
    ContextKind.ofToken?_eq_some_iff] at selected
  obtain ⟨kind, rest, ⟨token, rfl, named⟩, selected⟩ := selected
  split at selected
  · next omits =>
      obtain ⟨rfl, omitted⟩ := omits
      obtain ⟨branch, id, more, rfl, _, notApps, notDatasets⟩ := omitsMetric_iff.mp omitted
      obtain ⟨context, tag, form, rfl⟩ := selectStore_eq_ok_iff.mp selected
      exact .everyMetric named notApps notDatasets form
  · obtain ⟨⟨metric, left⟩, taken, selected⟩ := bind_eq_ok.mp selected
    rw [takeName_eq_ok_iff.mp taken]
    cases left with
    | nil =>
        cases selected
        exact .metric named
    | cons next more =>
        cases kind with
        | collect =>
            obtain ⟨context, tag, form, rfl⟩ := selectCollect_eq_ok_iff.mp selected
            exact .collect named form
        | process =>
            obtain ⟨context, name, form, rfl⟩ := selectProcess_eq_ok_iff.mp selected
            exact .process (.inl named) form
        | query =>
            obtain ⟨context, name, form, rfl⟩ := selectProcess_eq_ok_iff.mp selected
            exact .process (.inr named) form
        | store =>
            obtain ⟨context, tag, form, rfl⟩ := selectStore_eq_ok_iff.mp selected
            exact .store named form

/-- A metric that stands before `apps` or `datasets` is not taken for one left out. -/
theorem StoreForm.not_omitsMetric {path : List String} {context tag : Option String}
    (form : StoreForm path context tag) (metric : String) :
    ¬ omitsMetric (metric :: path) = true := by
  obtain ⟨branch, more, rfl, kind, named⟩ := form.exists_branch
  intro omitted
  obtain ⟨_, _, _, ⟨⟩, _, notApps, notDatasets⟩ := omitsMetric_iff.mp omitted
  cases kind with
  | apps => exact notApps named
  | datasets => exact notDatasets named

theorem Selects.select_eq {path : List String} {selection : Selection}
    (form : Selects path selection) : select path = .ok selection := by
  simp only [select, bind_eq_ok, Prod.exists, takeToken_eq_ok_iff,
    ContextKind.ofToken?_eq_some_iff]
  cases form with
  | @metric token metric kind named =>
      refine ⟨kind, [metric], ⟨token, rfl, named⟩, ?_⟩
      rw [if_neg (by rintro ⟨_, ⟨⟩⟩)]
      rfl
  | @collect token metric rest _ _ spelled form =>
      refine ⟨.collect, metric :: rest, ⟨token, rfl, spelled⟩, ?_⟩
      rw [if_neg (by rintro ⟨⟨⟩, _⟩)]
      cases rest with
      | nil => cases form
      | cons next more => exact selectCollect_eq_ok_iff.mpr ⟨_, _, form, rfl⟩
  | @process token metric _ _ rest spelled form =>
      obtain ⟨next, more, rfl⟩ := form.exists_cons
      have selected := selectProcess_eq_ok_iff.mpr ⟨_, _, form, rfl⟩
      rcases spelled with spelled | spelled
      · refine ⟨.process, metric :: next :: more, ⟨token, rfl, spelled⟩, ?_⟩
        rw [if_neg (by rintro ⟨⟨⟩, _⟩)]
        exact selected
      · refine ⟨.query, metric :: next :: more, ⟨token, rfl, spelled⟩, ?_⟩
        rw [if_neg (by rintro ⟨⟨⟩, _⟩)]
        exact selected
  | @store token metric rest _ _ spelled form =>
      have kept := form.not_omitsMetric metric
      obtain ⟨branch, more, rfl, _⟩ := form.exists_branch
      refine ⟨.store, metric :: branch :: more, ⟨token, rfl, spelled⟩, ?_⟩
      rw [if_neg fun omits => kept omits.2]
      exact selectStore_eq_ok_iff.mpr ⟨_, _, form, rfl⟩
  | @everyMetric token branch id rest _ _ spelled notApps notDatasets form =>
      have omitted : omitsMetric (branch :: id :: rest) = true := by
        obtain ⟨_, _, ⟨⟩, named⟩ := form.exists_branch
        exact omitsMetric_iff.mpr ⟨branch, id, rest, rfl, named, notApps, notDatasets⟩
      refine ⟨.store, branch :: id :: rest, ⟨token, rfl, spelled⟩, ?_⟩
      rw [if_pos ⟨rfl, omitted⟩]
      exact selectStore_eq_ok_iff.mpr ⟨_, _, form, rfl⟩

/-- A path is accepted if and only if it has one of the listed forms, and then it selects what the
form says. -/
theorem select_eq_ok_iff {path : List String} {selection : Selection} :
    select path = .ok selection ↔ Selects path selection :=
  ⟨Selects.of_select, Selects.select_eq⟩

example : select ["Store", "apps", "shop", "FLOWS", "orders", "datasets", "stock"] =
    .ok ⟨some "shop.f.orders", "", some "stock"⟩ := rfl

end SeriesQuery.Query
