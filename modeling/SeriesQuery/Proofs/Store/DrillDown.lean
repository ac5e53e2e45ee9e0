import Mathlib.Data.List.Dedup
import SeriesQuery.Proofs.Store.ScanOrder
import SeriesQuery.Proofs.Text.Split

set_option autoImplicit false

/-!
# One component further down

What lies under a dotted prefix is at the prefix itself, or lies under the prefix with one further
component, and which component that is can be read off the name. So the rows that a filter asks for
under a prefix are those at the prefix and, for each next component, those under the longer prefix, and
no row is among them twice.
-/

namespace SeriesQuery.Text.Dotted

/-! ## The next component -/

/-- The component that follows a prefix in a name; none if the name does not go on after the prefix
with a dot. -/
def nextComponent? (above name : String) : Option String :=
  (after? (above ++ ".").toList name.toList).map fun rest => String.ofList (cut '.' rest).1

theorem nextComponent?_eq_some_iff {above name component : String} :
    nextComponent? above name = some component ↔
      '.' ∉ component.toList ∧ LiesUnder name (join above component) := by
  unfold nextComponent?
  constructor
  · intro found
    obtain ⟨rest, goesOn, rfl⟩ := Option.map_eq_some_iff.mp found
    have written := after?_eq_some_iff.mp goesOn
    have whole := cut_append '.' rest
    have dotless := not_mem_cut_fst '.' rest
    generalize cut '.' rest = parts at whole dotless ⊢
    obtain ⟨first, more⟩ := parts
    refine ⟨by simpa using dotless, .inr ?_⟩
    cases more with
    | none =>
        left
        apply String.toList_inj.mp
        simp [join, written, ← whole]
    | some more =>
        right
        refine ⟨String.ofList more, ?_⟩
        apply String.toList_inj.mp
        simp [join, written, ← whole]
  · rintro ⟨dotless, empty | rfl | ⟨more, rfl⟩⟩
    · exact absurd empty (join_ne_empty above component)
    · have goesOn : after? (above ++ ".").toList (join above component).toList =
          some component.toList := after?_eq_some_iff.mpr (by simp [join])
      rw [goesOn, Option.map_some, cut_of_not_mem dotless, String.ofList_toList]
    · have goesOn : after? (above ++ ".").toList (join above component ++ "." ++ more).toList =
          some (component.toList ++ '.' :: more.toList) :=
        after?_eq_some_iff.mpr (by simp [join])
      rw [goesOn, Option.map_some, cut_append_cons dotless, String.ofList_toList]

theorem nextComponent?_self (above : String) : nextComponent? above above = none := by
  unfold nextComponent?
  cases goesOn : after? (above ++ ".").toList above.toList with
  | none => rfl
  | some rest =>
      have longer := congrArg List.length (after?_eq_some_iff.mp goesOn)
      simp at longer

theorem liesUnder_iff_next {above name : String} (named : above ≠ "") :
    LiesUnder name above ↔ name = above ∨ ∃ component, nextComponent? above name = some component := by
  have goesOn : (∃ component, nextComponent? above name = some component) ↔
      ∃ rest, name = above ++ "." ++ rest := by
    unfold nextComponent?
    constructor
    · rintro ⟨_, found⟩
      obtain ⟨rest, written, _⟩ := Option.map_eq_some_iff.mp found
      refine ⟨String.ofList rest, ?_⟩
      apply String.toList_inj.mp
      simpa using after?_eq_some_iff.mp written
    · rintro ⟨rest, rfl⟩
      have written : after? (above ++ ".").toList (above ++ "." ++ rest).toList = some rest.toList :=
        after?_eq_some_iff.mpr (by simp)
      rw [written]
      exact ⟨_, rfl⟩
  rw [goesOn, LiesUnder, or_iff_right named]

end SeriesQuery.Text.Dotted

namespace SeriesQuery.Store

open SeriesQuery.Text SeriesQuery.Text.Dotted

/-! ## Which rows are where -/

/-- A filter with another prefix of the context. -/
def RowFilter.inContext (filter : RowFilter) (above : String) : RowFilter :=
  { filter with context := some above }

/-- Where a filter finds a row below a prefix: at the prefix itself, or under the prefix with one
further component. -/
inductive RowFilter.Finds (filter : RowFilter) (above : String) (key : RowKey) :
    Option String → Prop where
  | itself : key.context = above → (filter.inContext above).Matches key → Finds filter above key none
  | component {name : String} : '.' ∉ name.toList →
      (filter.inContext (join above name)).Matches key → Finds filter above key (some name)

section

variable {filter : RowFilter} {above : String} {key : RowKey}

theorem RowFilter.Matches.under (matched : (filter.inContext above).Matches key) :
    LiesUnder key.context above :=
  matched.context above rfl

theorem RowFilter.Matches.move (matched : (filter.inContext above).Matches key) {other : String}
    (under : LiesUnder key.context other) : (filter.inContext other).Matches key where
  context := by
    intro asked isAsked
    cases isAsked
    exact under
  metric := matched.metric
  tag := matched.tag
  run := matched.run

theorem RowFilter.finds_iff (named : above ≠ "") {place : Option String} :
    filter.Finds above key place ↔
      (filter.inContext above).Matches key ∧ nextComponent? above key.context = place := by
  constructor
  · intro found
    cases found with
    | itself here matched => exact ⟨matched, here ▸ nextComponent?_self above⟩
    | component dotless matched =>
        have next := nextComponent?_eq_some_iff.mpr ⟨dotless, matched.under⟩
        exact ⟨matched.move ((liesUnder_iff_next named).mpr (.inr ⟨_, next⟩)), next⟩
  · rintro ⟨matched, next⟩
    cases place with
    | none =>
        rcases (liesUnder_iff_next named).mp matched.under with here | ⟨_, goesOn⟩
        · exact .itself here matched
        · rw [next] at goesOn
          cases goesOn
    | some name =>
        obtain ⟨dotless, under⟩ := nextComponent?_eq_some_iff.mp next
        exact .component dotless (matched.move under)

/-- What a filter asks for under a prefix it finds at one place, and nothing else. -/
theorem RowFilter.matches_iff_finds (named : above ≠ "") :
    (filter.inContext above).Matches key ↔ ∃! place, filter.Finds above key place := by
  constructor
  · intro matched
    refine ⟨nextComponent? above key.context, (finds_iff named).mpr ⟨matched, rfl⟩, ?_⟩
    intro other found
    exact ((finds_iff named).mp found).2.symm
  · rintro ⟨place, found, _⟩
    exact ((finds_iff named).mp found).1

theorem RowFilter.Matches.ends_iff (named : above ≠ "")
    (matched : (filter.inContext above).Matches key) :
    nextComponent? above key.context = none ↔ key.context = above := by
  constructor
  · intro ends
    cases (finds_iff named).mpr ⟨matched, ends⟩ with
    | itself here _ => exact here
  · intro here
    rw [here, nextComponent?_self]

/-- Under a prefix with one further component a filter asks for the rows under the prefix that go on with
this component. -/
theorem RowFilter.accepts_join_iff (named : above ≠ "") {name : String}
    (dotless : '.' ∉ name.toList) :
    (filter.inContext (join above name)).accepts key = true ↔
      (filter.inContext above).accepts key = true ∧
        nextComponent? above key.context = some name := by
  rw [accepts_iff, accepts_iff, ← finds_iff named]
  constructor
  · exact .component dotless
  · intro found
    cases found with
    | component _ matched => exact matched

end

/-! ## Lists taken apart -/

theorem filter_without {Item Key : Type} [DecidableEq Key] (key : Item → Key)
    {removed wanted : Key} (different : wanted ≠ removed) (items : List Item) :
    (items.filter fun item => ! decide (key item = removed)).filter
        (fun item => key item = wanted) = items.filter fun item => key item = wanted := by
  rw [List.filter_filter]
  apply List.filter_congr
  intro item _
  by_cases isWanted : key item = wanted <;> simp [isWanted, different]

/-- A list is taken apart into the items without a group and, for each group, the items in it. -/
theorem perm_groups {Item Group : Type} [DecidableEq Group] (group? : Item → Option Group)
    {groups : List Group} (nodup : groups.Nodup) (items : List Item)
    (covered : ∀ item ∈ items, ∀ group, group? item = some group → group ∈ groups) :
    items.Perm ((items.filter fun item => group? item = none) ++
      groups.flatMap fun group => items.filter fun item => group? item = some group) := by
  induction groups generalizing items with
  | nil =>
      have alone : items.filter (fun item => group? item = none) = items := by
        apply List.filter_eq_self.mpr
        intro item member
        cases inGroup : group? item with
        | none => simp
        | some group => exact absurd (covered item member group inGroup) List.not_mem_nil
      rw [alone, List.flatMap_nil, List.append_nil]
  | cons first groups ih =>
      obtain ⟨fresh, groupsNodup⟩ := List.nodup_cons.mp nodup
      have others := ih groupsNodup (items.filter fun item => ! decide (group? item = some first)) (by
        intro item member group inGroup
        obtain ⟨inItems, notFirst⟩ := List.mem_filter.mp member
        rcases List.mem_cons.mp (covered item inItems group inGroup) with rfl | later
        · simp [inGroup] at notFirst
        · exact later)
      have alone := filter_without group? (Option.some_ne_none first).symm items
      have apart (group : Group) (later : group ∈ groups) := by
        have different : some group ≠ some first := fun same => fresh (Option.some.inj same ▸ later)
        exact filter_without group? different items
      rw [alone, List.flatMap_congr apart] at others
      have split := (List.filter_append_perm (fun item => group? item = some first) items).symm
      rw [List.flatMap_cons]
      exact split.trans ((others.append_left _).trans (List.perm_append_comm_assoc _ _ _))

/-! ## The rows of a store -/

def contexts (store : Store) : List String :=
  store.series.map (·.key.context) ++ store.totals.map (·.key.context)

/-- The components that follow a prefix in the contexts of a store, each once. -/
def componentsUnder (store : Store) (above : String) : List String :=
  (store.contexts.filterMap (nextComponent? above)).dedup

/-- The rows of a store at a context itself. -/
def exactly (store : Store) (context : String) : Store where
  series := store.series.filter fun row => row.key.context = context
  totals := store.totals.filter fun row => row.key.context = context

section

variable {store : Store} {above : String}

theorem nodup_componentsUnder : (store.componentsUnder above).Nodup :=
  List.nodup_dedup _

theorem mem_componentsUnder_of_next {context name : String} (held : context ∈ store.contexts)
    (next : nextComponent? above context = some name) : name ∈ store.componentsUnder above :=
  List.mem_dedup.mpr (List.mem_filterMap.mpr ⟨context, held, next⟩)

theorem mem_componentsUnder {name : String} :
    name ∈ store.componentsUnder above ↔
      '.' ∉ name.toList ∧ ∃ context ∈ store.contexts, LiesUnder context (join above name) := by
  constructor
  · intro member
    obtain ⟨context, held, next⟩ := List.mem_filterMap.mp (List.mem_dedup.mp member)
    obtain ⟨dotless, under⟩ := nextComponent?_eq_some_iff.mp next
    exact ⟨dotless, context, held, under⟩
  · intro given
    obtain ⟨dotless, context, held, under⟩ := given
    exact mem_componentsUnder_of_next held (nextComponent?_eq_some_iff.mpr ⟨dotless, under⟩)

end

/-! ## Scans taken apart -/

/-- What is picked of a row depends on the filter only in whether the filter asks for the row. -/
structure Picks {Row Out : Type} (key : Row → RowKey) (pick : RowFilter → Row → Option Out) :
    Prop where
  refused : ∀ filter row, ¬ filter.accepts (key row) = true → pick filter row = none
  alike : ∀ filter other row, filter.accepts (key row) = true → other.accepts (key row) = true →
    pick filter row = pick other row

theorem picks_pickTotal : Picks TotalRow.key pickTotal where
  refused _ _ refused := if_neg refused
  alike _ _ _ accepted accepts := (if_pos accepted).trans (if_pos accepts).symm

theorem picks_scanRow (resolution : UInt32) (scan : SeriesScan) :
    Picks SeriesRow.key fun filter => scanRow resolution { scan with filter } where
  refused _ _ refused := if_neg refused
  alike _ _ _ accepted accepts := (if_pos accepted).trans (if_pos accepts).symm

section

variable {Row Out : Type} {key : Row → RowKey} {pick : RowFilter → Row → Option Out}
  {above : String} {names : List String} {rows : List Row}

theorem Picks.filterMap_itself (picks : Picks key pick) (named : above ≠ "") (filter : RowFilter)
    (rows : List Row) :
    (rows.filter fun row => nextComponent? above (key row).context = none).filterMap
        (pick (filter.inContext above)) =
      (rows.filter fun row => (key row).context = above).filterMap
        (pick (filter.inContext above)) := by
  rw [List.filterMap_filter, List.filterMap_filter]
  apply List.filterMap_congr
  intro row _
  by_cases accepted : (filter.inContext above).accepts (key row) = true
  · have ends := (RowFilter.accepts_iff.mp accepted).ends_iff named
    simp only [ends]
  · simp [picks.refused _ row accepted]

theorem Picks.filterMap_component (picks : Picks key pick) (named : above ≠ "")
    (filter : RowFilter) (rows : List Row) {name : String} (dotless : '.' ∉ name.toList) :
    (rows.filter fun row => nextComponent? above (key row).context = some name).filterMap
        (pick (filter.inContext above)) =
      rows.filterMap (pick (filter.inContext (join above name))) := by
  rw [List.filterMap_filter]
  apply List.filterMap_congr
  intro row _
  have found : (filter.inContext (join above name)).accepts (key row) = true ↔ _ :=
    RowFilter.accepts_join_iff named dotless
  by_cases accepts : (filter.inContext (join above name)).accepts (key row) = true
  · obtain ⟨accepted, next⟩ := found.mp accepts
    simp [next, picks.alike _ _ row accepted accepts]
  · rw [picks.refused _ row accepts]
    by_cases next : nextComponent? above (key row).context = some name
    · have refused := picks.refused _ row fun accepted => accepts (found.mpr ⟨accepted, next⟩)
      simp [refused]
    · simp [next]

/-- Rows picked under a prefix are those picked at the prefix and, for each next component, those
picked under the longer prefix. -/
theorem filterMap_drillDown (named : above ≠ "") (picks : Picks key pick) (filter : RowFilter)
    (nodup : names.Nodup) (dotless : ∀ name ∈ names, '.' ∉ name.toList)
    (covered : ∀ row ∈ rows, ∀ name,
      nextComponent? above (key row).context = some name → name ∈ names) :
    (rows.filterMap (pick (filter.inContext above))).Perm
      (((rows.filter fun row => (key row).context = above).filterMap
          (pick (filter.inContext above))) ++
        names.flatMap fun name => rows.filterMap (pick (filter.inContext (join above name)))) := by
  have apart := (perm_groups (fun row => nextComponent? above (key row).context) nodup rows
    covered).filterMap (pick (filter.inContext above))
  have further (name : String) (member : name ∈ names) :=
    picks.filterMap_component named filter rows (dotless name member)
  rwa [List.filterMap_append, List.filterMap_flatMap, picks.filterMap_itself named,
    List.flatMap_congr further] at apart

theorem arrange_drillDown (outKey : Out → RowKey) (named : above ≠ "") (picks : Picks key pick)
    (filter : RowFilter) (nodup : names.Nodup) (dotless : ∀ name ∈ names, '.' ∉ name.toList)
    (covered : ∀ row ∈ rows, ∀ name,
      nextComponent? above (key row).context = some name → name ∈ names) :
    (arrange (pick (filter.inContext above)) outKey rows).Perm
      (arrange (pick (filter.inContext above)) outKey
          (rows.filter fun row => (key row).context = above) ++
        names.flatMap fun name =>
          arrange (pick (filter.inContext (join above name))) outKey rows) := by
  have apart := filterMap_drillDown named picks filter nodup dotless covered
  apply (arrange_perm rows).trans (apart.trans _)
  apply List.Perm.append (arrange_perm _).symm
  apply List.Perm.flatMap_left
  intro name _
  exact (arrange_perm rows).symm

end

section

variable {above : String} (store : Store)

theorem scanTotals_drillDown (named : above ≠ "") (filter : RowFilter) :
    (store.scanTotals (filter.inContext above)).Perm
      ((store.exactly above).scanTotals (filter.inContext above) ++
        (store.componentsUnder above).flatMap fun name =>
          store.scanTotals (filter.inContext (join above name))) := by
  simp only [scanTotals_eq_arrange]
  apply arrange_drillDown TotalRow.key named picks_pickTotal filter nodup_componentsUnder
  · intro name member
    exact (mem_componentsUnder.mp member).1
  · intro row member name next
    apply mem_componentsUnder_of_next _ next
    exact List.mem_append_right _ (List.mem_map_of_mem member)

theorem scanSeries_drillDown (named : above ≠ "") (resolution : UInt32) (scan : SeriesScan) :
    (store.scanSeries resolution { scan with filter := scan.filter.inContext above }).Perm
      ((store.exactly above).scanSeries resolution
          { scan with filter := scan.filter.inContext above } ++
        (store.componentsUnder above).flatMap fun name =>
          store.scanSeries resolution
            { scan with filter := scan.filter.inContext (join above name) }) := by
  by_cases backwards : scan.finish < scan.start
  · have nothing (store : Store) (filter : RowFilter) :
        store.scanSeries resolution { scan with filter } = [] := if_pos backwards
    simp [nothing]
  · have arranged (store : Store) (filter : RowFilter) :
        store.scanSeries resolution { scan with filter } =
          arrange (scanRow resolution { scan with filter }) SeriesRow.key store.series :=
      if_neg backwards
    simp only [arranged]
    apply arrange_drillDown SeriesRow.key named (picks_scanRow resolution scan) scan.filter
      nodup_componentsUnder
    · intro name member
      exact (mem_componentsUnder.mp member).1
    · intro row member name next
      apply mem_componentsUnder_of_next _ next
      exact List.mem_append_left _ (List.mem_map_of_mem member)

end

end SeriesQuery.Store
