import Mathlib.Data.List.Nodup
import Mathlib.Data.List.Perm.Basic
import SeriesQuery.Proofs.Store.Writes

set_option autoImplicit false

/-!
# Calls in another order

What a store holds for a row is settled by the calls for that row alone, and these may come in any
order. Stores that the same calls fill in two orders therefore hold the same rows, each of them once,
though not in the same order.
-/

namespace SeriesQuery.Store

open SeriesQuery.Series

/-! ## Rows by their keys -/

section Rows

variable {Row : Type} (key : Row → RowKey)

def rowOf (wanted : RowKey) (rows : List Row) : Option Row :=
  rows.find? (key · = wanted)

/-- Puts a row in the place of the row of a key, or behind all others if there is none. -/
def put (wanted : RowKey) (change : Option Row → Row) : List Row → List Row
  | [] => [change none]
  | row :: rest =>
    if key row = wanted then change (some row) :: rest else row :: put wanted change rest

/-- No two rows have the same key. -/
def Distinct (rows : List Row) : Prop :=
  (rows.map key).Nodup

variable {key}

theorem rowOf_cons (wanted : RowKey) (row : Row) (rest : List Row) :
    rowOf key wanted (row :: rest) = if key row = wanted then some row else rowOf key wanted rest := by
  by_cases same : key row = wanted <;> simp [rowOf, same]

theorem rowOf_put {wanted : RowKey} {change : Option Row → Row}
    (keyed : ∀ old, key (change old) = wanted) (asked : RowKey) (rows : List Row) :
    rowOf key asked (put key wanted change rows) =
      if asked = wanted then some (change (rowOf key wanted rows)) else rowOf key asked rows := by
  induction rows with
  | nil => simp [put, keyed, rowOf, eq_comm]
  | cons row rest ih =>
      rw [put]
      split
      · next here =>
          rw [rowOf_cons, keyed, rowOf_cons, if_pos here, rowOf_cons, here]
          by_cases same : asked = wanted
          · simp [same]
          · simp [same, Ne.symm same]
      · next other =>
          rw [rowOf_cons, ih, rowOf_cons wanted, if_neg other, rowOf_cons]
          by_cases same : asked = wanted
          · simp [same, other]
          · simp [same]

theorem mem_keys_put {wanted : RowKey} {change : Option Row → Row}
    (keyed : ∀ old, key (change old) = wanted) {rows : List Row} {asked : RowKey} :
    asked ∈ (put key wanted change rows).map key ↔ asked = wanted ∨ asked ∈ rows.map key := by
  induction rows with
  | nil => simp [put, keyed]
  | cons row rest ih =>
      rw [put]
      split
      · next here => simp [keyed, here]
      · rw [List.map_cons, List.mem_cons, ih, List.map_cons, List.mem_cons]
        exact or_left_comm

theorem Distinct.put {wanted : RowKey} {change : Option Row → Row}
    (keyed : ∀ old, key (change old) = wanted) {rows : List Row} (distinct : Distinct key rows) :
    Distinct key (put key wanted change rows) := by
  induction rows with
  | nil => exact List.nodup_singleton _
  | cons row rest ih =>
      obtain ⟨absent, others⟩ := List.nodup_cons.mp distinct
      rw [Store.put]
      split
      · next here =>
          refine List.nodup_cons.mpr ⟨?_, others⟩
          rwa [keyed, ← here]
      · next other =>
          refine List.nodup_cons.mpr ⟨fun member => ?_, ih others⟩
          rcases (mem_keys_put keyed).mp member with same | inside
          · exact other same
          · exact absent inside

theorem Distinct.mem_iff {rows : List Row} (distinct : Distinct key rows) {row : Row} :
    row ∈ rows ↔ rowOf key (key row) rows = some row := by
  induction rows with
  | nil => simp [rowOf]
  | cons first rest ih =>
      obtain ⟨absent, others⟩ := List.nodup_cons.mp distinct
      rw [List.mem_cons, ih others, rowOf_cons]
      split
      · next same =>
          constructor
          · rintro (rfl | found)
            · rfl
            · have inside : key row ∈ rest.map key :=
                List.mem_map_of_mem ((ih others).mpr found)
              exact absurd (same ▸ inside) absent
          · intro found
            cases found
            exact .inl rfl
      · next other =>
          constructor
          · rintro (rfl | found)
            · exact absurd rfl other
            · exact found
          · exact .inr

/-- Lists of distinct rows are in some order the same if they have the same row for each key. -/
theorem Distinct.perm {rows others : List Row} (distinct : Distinct key rows)
    (otherwise : Distinct key others) (same : ∀ wanted, rowOf key wanted rows = rowOf key wanted others) :
    rows.Perm others := by
  refine (List.perm_ext_iff_of_nodup (List.Nodup.of_map key distinct)
    (List.Nodup.of_map key otherwise)).mpr ?_
  intro row
  rw [distinct.mem_iff, otherwise.mem_iff, same]

end Rows

/-! ## What one call changes -/

def changeSeries (call : Recording) (old : Option SeriesRow) : SeriesRow :=
  ⟨call.key, addPoint call.time call.value ((old.map (·.points)).getD [])⟩

def changeTotal (key : RowKey) (delta : Int64) (old : Option TotalRow) : TotalRow :=
  ⟨key, ((old.map (·.value)).getD 0) + delta⟩

theorem key_changeSeries (call : Recording) (old : Option SeriesRow) :
    (changeSeries call old).key = call.key :=
  rfl

theorem key_changeTotal (key : RowKey) (delta : Int64) (old : Option TotalRow) :
    (changeTotal key delta old).key = key :=
  rfl

theorem addSeries_eq_put (call : Recording) (series : List SeriesRow) :
    addSeries call.key call.time call.value series =
      put SeriesRow.key call.key (changeSeries call) series := by
  induction series with
  | nil => rfl
  | cons row rest ih =>
      rw [addSeries, put, ih]
      rfl

theorem addTotal_eq_put (key : RowKey) (delta : Int64) (totals : List TotalRow) :
    addTotal key delta totals = put TotalRow.key key (changeTotal key delta) totals := by
  induction totals with
  | nil => simp [addTotal, put, changeTotal]
  | cons row rest ih =>
      rw [addTotal, put, ih]
      rfl

def seriesAfter (key : RowKey) (old : Option SeriesRow) : Write → Option SeriesRow
  | .record call => if key = call.key then some (changeSeries call old) else old
  | .increment _ _ => old

def totalAfter (key : RowKey) (old : Option TotalRow) : Write → Option TotalRow
  | .record _ => old
  | .increment row delta => if key = row then some (changeTotal row delta old) else old

theorem rowOf_write_series (store : Store) (call : Write) (key : RowKey) :
    rowOf SeriesRow.key key (store.write call).series =
      seriesAfter key (rowOf SeriesRow.key key store.series) call := by
  cases call with
  | record call =>
      rw [write, record, addSeries_eq_put, rowOf_put (key_changeSeries call), seriesAfter]
      split
      · next same => rw [same]
      · rfl
  | increment row delta => rfl

theorem rowOf_write_totals (store : Store) (call : Write) (key : RowKey) :
    rowOf TotalRow.key key (store.write call).totals =
      totalAfter key (rowOf TotalRow.key key store.totals) call := by
  cases call with
  | record call => rfl
  | increment row delta =>
      rw [write, increment, addTotal_eq_put, rowOf_put (key_changeTotal row delta), totalAfter]
      split
      · next same => rw [same]
      · rfl

/-! ## Calls change places -/

theorem addPoint_comm (time other value more : Int64) (points : List Point) :
    addPoint time value (addPoint other more points) =
      addPoint other more (addPoint time value points) := by
  -- Two values for one second are added in either order, points of two seconds have their own places.
  have values : value + more = more + value := Int64.add_comm value more
  induction points with
  | nil => grind [addPoint]
  | cons point rest ih =>
      have sums : point.value + value + more = point.value + more + value := by grind
      grind [addPoint]

theorem seriesAfter_comm (key : RowKey) (old : Option SeriesRow) (call other : Write) :
    seriesAfter key (seriesAfter key old call) other =
      seriesAfter key (seriesAfter key old other) call := by
  cases call with
  | increment _ _ => rfl
  | record call =>
      cases other with
      | increment _ _ => rfl
      | record other =>
          simp only [seriesAfter]
          by_cases first : key = call.key
          · by_cases second : key = other.key
            · simp only [changeSeries, ← first, ← second, ↓reduceIte, Option.map_some,
                Option.getD_some, addPoint_comm other.time]
            · simp only [second, ↓reduceIte]
          · simp only [first, ↓reduceIte]

theorem totalAfter_comm (key : RowKey) (old : Option TotalRow) (call other : Write) :
    totalAfter key (totalAfter key old call) other =
      totalAfter key (totalAfter key old other) call := by
  cases call with
  | record _ => rfl
  | increment row delta =>
      cases other with
      | record _ => rfl
      | increment otherRow more =>
          simp only [totalAfter]
          by_cases first : key = row
          · by_cases second : key = otherRow
            · simp only [changeTotal, ← first, ← second, ↓reduceIte, Option.map_some,
                Option.getD_some, Int64.add_assoc, Int64.add_comm delta]
            · simp only [second, ↓reduceIte]
          · simp only [first, ↓reduceIte]

/-! ## What all calls leave -/

structure Keyed (store : Store) : Prop where
  series : Distinct SeriesRow.key store.series
  totals : Distinct TotalRow.key store.totals

theorem keyed_empty : Keyed empty :=
  ⟨List.nodup_nil, List.nodup_nil⟩

theorem Keyed.write {store : Store} (keyed : Keyed store) (call : Write) :
    Keyed (store.write call) := by
  cases call with
  | record call =>
      refine ⟨?_, keyed.totals⟩
      rw [Store.write, record, addSeries_eq_put]
      exact keyed.series.put (key_changeSeries call)
  | increment row delta =>
      refine ⟨keyed.series, ?_⟩
      rw [Store.write, increment, addTotal_eq_put]
      exact keyed.totals.put (key_changeTotal row delta)

theorem Keyed.writes {store : Store} (keyed : Keyed store) (calls : List Write) :
    Keyed (calls.foldl Store.write store) := by
  induction calls generalizing store with
  | nil => exact keyed
  | cons call calls ih => exact ih (keyed.write call)

theorem keyed_ofWrites (calls : List Write) : Keyed (ofWrites calls) :=
  keyed_empty.writes calls

theorem rowOf_writes_series (store : Store) (calls : List Write) (key : RowKey) :
    rowOf SeriesRow.key key (calls.foldl write store).series =
      calls.foldl (seriesAfter key) (rowOf SeriesRow.key key store.series) := by
  induction calls generalizing store with
  | nil => rfl
  | cons call calls ih => rw [List.foldl_cons, ih, rowOf_write_series, List.foldl_cons]

theorem rowOf_writes_totals (store : Store) (calls : List Write) (key : RowKey) :
    rowOf TotalRow.key key (calls.foldl write store).totals =
      calls.foldl (totalAfter key) (rowOf TotalRow.key key store.totals) := by
  induction calls generalizing store with
  | nil => rfl
  | cons call calls ih => rw [List.foldl_cons, ih, rowOf_write_totals, List.foldl_cons]

/-- Two stores hold the same rows, though perhaps not in the same order. -/
structure SameRows (store other : Store) : Prop where
  series : store.series.Perm other.series
  totals : store.totals.Perm other.totals

/-- Calls in another order leave the same rows. -/
theorem sameRows_ofWrites {calls others : List Write} (same : calls.Perm others) :
    SameRows (ofWrites calls) (ofWrites others) := by
  have keyed := keyed_ofWrites calls
  have otherwise := keyed_ofWrites others
  constructor
  · refine keyed.series.perm otherwise.series fun key => ?_
    rw [ofWrites, ofWrites, rowOf_writes_series, rowOf_writes_series]
    exact same.foldl_eq' (fun call _ other _ old => seriesAfter_comm key old call other) _
  · refine keyed.totals.perm otherwise.totals fun key => ?_
    rw [ofWrites, ofWrites, rowOf_writes_totals, rowOf_writes_totals]
    exact same.foldl_eq' (fun call _ other _ old => totalAfter_comm key old call other) _

end SeriesQuery.Store
