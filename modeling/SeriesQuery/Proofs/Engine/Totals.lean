import SeriesQuery.Engine
import SeriesQuery.Proofs.Store.Writes

set_option autoImplicit false

/-!
# Totals from the history of a store

A request for a total is answered with exactly what was added to the totals of the rows asked for,
however the rows come out of the scan. Tables of time series have no part in it: the answer is the
same while they fail to be constructed, and the cache stays as it is.
-/

namespace SeriesQuery.Engine

open SeriesQuery.Query SeriesQuery.Series SeriesQuery.Store SeriesQuery.Table

theorem sumTotals_eq_ofInt_exactSum (rows : List TotalRow) :
    sumTotals rows = Int64.ofInt (exactSum (rows.map (·.value))) := by
  rw [sumTotals, foldl_add_eq_ofInt_exactSum, Int64.zero_add]

theorem sumTotals_perm {left right : List TotalRow} (same : left.Perm right) :
    sumTotals left = sumTotals right := by
  rw [sumTotals_eq_ofInt_exactSum, sumTotals_eq_ofInt_exactSum, exactSum_perm (same.map _)]

theorem sumTotals_scan_ofWrites (writes : List Write) (filter : RowFilter) :
    sumTotals ((ofWrites writes).scanTotals filter) = addedTo filter writes := by
  rw [sumTotals_eq_ofInt_exactSum, exactSum_scanTotals, heldBy_ofWrites]

/-- The rows that a request for a total asks for. The busyness has no totals of its own, so its very
name is the prefix of the metric names. -/
def askedTotals (query : Descriptor) : RowFilter where
  context := query.context
  metric := match query.metric with
    | .named name => name
    | .busyness => "busyness"
  tag := query.tag
  runId := query.runId

theorem totalsFilter_eq (query : Descriptor) : totalsFilter query = askedTotals query := by
  rw [totalsFilter, askedTotals]
  cases query.metric with
  | named name => rfl
  | busyness => rfl

/-- A total is the sum of all that was added to the rows asked for, in whichever order the scan gives
the rows. No table is looked up or constructed for it. -/
theorem execute_ofWrites (engine : Engine) (writes : List Write) {backend : Backend}
    {rows : List TotalRow} {query : Descriptor} (kind : query.kind = .aggregate)
    (scanned : backend.scanTotals (askedTotals query) = .ok rows)
    (anyOrder : rows.Perm ((ofWrites writes).scanTotals (askedTotals query))) :
    (engine.execute backend query).1 = .ok (.total (addedTo (askedTotals query) writes)) ∧
      (engine.execute backend query).2.tables = engine.tables ∧
      (engine.execute backend query).2.scans = .totals (askedTotals query) :: engine.scans := by
  have sum : sumTotals rows = addedTo (askedTotals query) writes := by
    rw [sumTotals_perm anyOrder, sumTotals_scan_ofWrites]
  have answered : engine.execute backend query =
      ({ engine with scans := .totals (askedTotals query) :: engine.scans } : Engine).conclude
        .aggregate (.ok (.total (addedTo (askedTotals query) writes))) := by
    simp only [execute, kind, answerTotal, totalsFilter_eq, scanned, sum]
  rw [answered]
  exact ⟨rfl, rfl, rfl⟩

theorem execute_ofWrites_busyness :
    ((Engine.mk 1 ((Tables.empty false).fail 1) .zero []).execute
        (StandIn.over ⟨none, none, some [
          ⟨⟨"shop.f.orders", "busyness", none, some "first"⟩, Int64.minValue⟩,
          ⟨⟨"shop", "busyness.peak", none, none⟩, 5⟩]⟩ (.ofStore .empty))
        ⟨"", .aggregate, some "shop", .busyness, none, none, 9, 3, 7⟩).1 =
      .ok (.total (Int64.minValue + 5)) :=
  (execute_ofWrites _ [
      .increment ⟨"shop.f.orders", "busyness", none, some "first"⟩ Int64.maxValue,
      .record ⟨⟨"shop.f.orders", "busyness", none, none⟩, 5, 70⟩,
      .increment ⟨"shop", "busyness.peak", none, none⟩ 5,
      .increment ⟨"shop", "busyness", some "east", none⟩ 300,
      .increment ⟨"shop.f.orders", "busyness", none, some "first"⟩ 1,
      .increment ⟨"shopping", "busyness", none, none⟩ 2000]
    rfl rfl (.trans (by decide) (scanTotals_perm _ _).symm)).1.trans
    (congrArg (fun sum => Except.ok (Answer.total sum)) (by decide +kernel))

end SeriesQuery.Engine
