import Mathlib.Data.List.Count
import SeriesQuery.Proofs.Engine.Answer

set_option autoImplicit false

/-!
# What an engine publishes

The counters of an engine are told by the queries that were executed, with their outcomes, and by the
batches that were handled. A sample that is not published stands for zero.
-/

namespace SeriesQuery

open SeriesQuery.Query SeriesQuery.Table SeriesQuery.Text

/-- The kind of an executed query and whether it was answered. -/
abbrev Execution := Kind × Bool

theorem count_kinds (executions : List Execution) (succeeded : Bool) :
    executions.count (.timeSeries, succeeded) + executions.count (.aggregate, succeeded) =
      executions.countP (·.2 == succeeded) := by
  induction executions with
  | nil => rfl
  | cons execution rest ih =>
      obtain ⟨kind, outcome⟩ := execution
      simp only [List.count_cons, List.countP_cons, ← ih]
      cases kind <;> cases outcome <;> cases succeeded <;> simp <;> omega

namespace BatchSizes

/-- How the sizes of batches of URIs are counted. -/
def ofBatches (batches : List (List String)) : BatchSizes where
  batches := batches.length
  uris := batches.flatten.length
  within := bounds.map fun bound => batches.countP (·.length ≤ bound)

theorem ofBatches_concat (batches : List (List String)) (uris : List String) :
    ofBatches (batches ++ [uris]) = (ofBatches batches).count uris.length := by
  have within : (ofBatches (batches ++ [uris])).within =
      ((ofBatches batches).count uris.length).within := by
    simp only [ofBatches, count, List.zipWith_map_right, List.zipWith_self]
    refine List.map_congr_left fun bound _ => ?_
    rw [List.countP_append, List.countP_singleton]
    by_cases small : uris.length ≤ bound <;> simp [small]
  rw [ofBatches, count, mk.injEq]
  exact ⟨by simp [ofBatches], by simp [ofBatches], within⟩

end BatchSizes

namespace Counters

/-- How executed queries and handled batches are counted. -/
def tally (executions : List Execution) (batches : List (List String)) : Counters where
  timeSeries := ⟨executions.count (.timeSeries, true), executions.count (.timeSeries, false)⟩
  aggregate := ⟨executions.count (.aggregate, true), executions.count (.aggregate, false)⟩
  batchSizes := .ofBatches batches

theorem tally_concat (executions : List Execution) (batches : List (List String)) (kind : Kind)
    (succeeded : Bool) :
    tally (executions ++ [(kind, succeeded)]) batches =
      (tally executions batches).countQuery kind succeeded := by
  cases kind <;> cases succeeded <;> simp [tally, countQuery, Tally.count, List.count_append]

theorem tally_concat_batch (executions : List Execution) (batches : List (List String))
    (uris : List String) :
    tally executions (batches ++ [uris]) = (tally executions batches).countBatch uris.length := by
  rw [tally, BatchSizes.ofBatches_concat]
  rfl

theorem tally_perm {executions others : List Execution} (same : executions.Perm others)
    (batches : List (List String)) : tally executions batches = tally others batches := by
  simp only [tally, same.count_eq]

/-! ## Samples -/

/-- How samples name outcomes. -/
def status : Bool → String
  | true => "ok"
  | false => "error"

def queriesName (kind : Kind) (succeeded : Bool) : String :=
  "metrics_query_queries_total\x7bkind=\"" ++ kind.flag ++ "\",status=\"" ++ status succeeded ++
    "\"\x7d"

def loadsName (succeeded : Bool) : String :=
  "metrics_query_table_loads_total" ++ label "status" (status succeeded)

def sizesName (part : String) : String :=
  "metrics_query_batch_items" ++ part

def bucketName (bound : String) : String :=
  sizesName "_bucket" ++ label "le" bound

/-- All samples, those of value zero among them. -/
def allSamples (executions : List Execution) (batches : List (List String)) (loads : Tally) :
    List (String × Nat) :=
  (tally executions batches).querySamples .timeSeries ++
    (tally executions batches).querySamples .aggregate ++ loadSamples loads ++
    sizeSamples (.ofBatches batches)

theorem names_nodup (executions : List Execution) (batches : List (List String)) (loads : Tally) :
    ((allSamples executions batches loads).map (·.1)).Nodup := by
  have names : (allSamples executions batches loads).map (·.1) =
      (allSamples [] [] .zero).map (·.1) := rfl
  rw [names]
  decide +kernel

/-- A value can be looked up whether or not the values of zero are left out. -/
theorem lookup_filter {samples : List (String × Nat)} (nodup : (samples.map (·.1)).Nodup)
    {name : String} {value : Nat} (member : (name, value) ∈ samples) :
    ((samples.filter (·.2 ≠ 0)).lookup name).getD 0 = value := by
  induction samples with
  | nil => cases member
  | cons sample rest ih =>
      rw [List.map_cons, List.nodup_cons] at nodup
      obtain ⟨fresh, nodup⟩ := nodup
      rcases List.mem_cons.mp member with rfl | there
      · by_cases zero : value = 0
        · have absent : (rest.filter (·.2 ≠ 0)).lookup name = none := by
            refine List.lookup_eq_none_iff.mpr fun other kept => bne_iff_ne.mpr ?_
            rintro rfl
            exact fresh (List.mem_map.mpr ⟨other, (List.mem_filter.mp kept).1, rfl⟩)
          rw [List.filter_cons_of_neg (by simp [zero]), absent, zero]
          rfl
        · rw [List.filter_cons_of_pos (by simp [zero]), List.lookup_cons_self, Option.getD_some]
      · have elsewhere : (name == sample.1) = false := by
          rw [beq_eq_false_iff_ne]
          rintro rfl
          exact fresh (List.mem_map.mpr ⟨_, there, rfl⟩)
        rw [List.filter_cons]
        split
        · rw [List.lookup_cons, elsewhere]
          exact ih nodup there
        · exact ih nodup there

end Counters

namespace Engine

theorem execute_counters (engine : Engine) (backend : Backend) (query : Descriptor) :
    (engine.execute backend query).2.counters =
      engine.counters.countQuery query.kind (engine.execute backend query).1.isOk := by
  rw [execute]
  cases query.kind with
  | aggregate =>
      dsimp only
      rw [answerTotal_eq]
      rfl
  | timeSeries =>
      dsimp only
      rw [answerSeries_eq]
      rfl

/-- The published value of a sample. -/
def sample (engine : Engine) (name : String) : Nat :=
  (engine.samples.lookup name).getD 0

variable {engine : Engine} {executions : List Execution} {batches : List (List String)}

theorem sample_eq (counted : engine.counters = .tally executions batches) {name : String}
    {value : Nat} (member : (name, value) ∈
      Counters.allSamples executions batches engine.tables.loads) :
    engine.sample name = value := by
  rw [sample, samples, counted]
  exact Counters.lookup_filter (Counters.names_nodup executions batches engine.tables.loads) member

theorem sample_queries (counted : engine.counters = .tally executions batches) (kind : Kind)
    (succeeded : Bool) :
    engine.sample (Counters.queriesName kind succeeded) = executions.count (kind, succeeded) := by
  refine sample_eq counted (List.mem_append_left _ (List.mem_append_left _ (List.mem_append.mpr ?_)))
  have mine : (Counters.queriesName kind succeeded, executions.count (kind, succeeded)) ∈
      (Counters.tally executions batches).querySamples kind := by
    cases succeeded with
    | true => cases kind <;> exact List.mem_cons_self
    | false => cases kind <;> exact List.mem_cons_of_mem _ List.mem_cons_self
  cases kind with
  | timeSeries => exact .inl mine
  | aggregate => exact .inr mine

theorem sample_loads (counted : engine.counters = .tally executions batches) :
    engine.sample (Counters.loadsName true) = engine.tables.loads.ok ∧
      engine.sample (Counters.loadsName false) = engine.tables.loads.failed := by
  constructor <;> refine sample_eq counted (List.mem_append_left _ (List.mem_append_right _ ?_))
  · exact List.mem_cons_self
  · exact List.mem_cons_of_mem _ List.mem_cons_self

theorem sample_sizes (counted : engine.counters = .tally executions batches) :
    engine.sample (Counters.sizesName "_count") = batches.length ∧
      engine.sample (Counters.sizesName "_sum") = batches.flatten.length ∧
      engine.sample (Counters.bucketName "+Inf") = batches.length := by
  refine ⟨?_, ?_, ?_⟩ <;>
    refine sample_eq counted (List.mem_append_right _ (List.mem_append_right _ ?_))
  · exact List.mem_cons_of_mem _ (List.mem_cons_of_mem _ List.mem_cons_self)
  · exact List.mem_cons_of_mem _ List.mem_cons_self
  · exact List.mem_cons_self

theorem sample_bucket (counted : engine.counters = .tally executions batches) {bound : Nat}
    (member : bound ∈ BatchSizes.bounds) :
    engine.sample (Counters.bucketName (Numeral.natText bound)) =
      batches.countP (·.length ≤ bound) := by
  have zipped : (bound, batches.countP (·.length ≤ bound)) ∈
      BatchSizes.bounds.zip (BatchSizes.ofBatches batches).within := by
    rw [BatchSizes.ofBatches, ← List.map_prod_left_eq_zip]
    exact List.mem_map.mpr ⟨bound, member, rfl⟩
  refine sample_eq counted (List.mem_append_right _ (List.mem_append_left _ ?_))
  exact List.mem_map.mpr ⟨_, zipped, rfl⟩

end Engine

end SeriesQuery
