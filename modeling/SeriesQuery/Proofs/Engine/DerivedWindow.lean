import Mathlib.Control.Monad.Basic
import SeriesQuery.Proofs.Engine.Answer
import SeriesQuery.Proofs.Query.Window
import SeriesQuery.Proofs.Series.Merge
import SeriesQuery.Proofs.Store.Window
import SeriesQuery.Proofs.Table.Reachable

set_option autoImplicit false

/-!
# Answers over a derived window

A window whose start is derived from its end is one second wider than the answer has points: a scan
takes both ends in, while the points run from the start to the second before the end. So an answer
counts all that the scan gives, except for what stands at the end itself.
-/

namespace SeriesQuery.Engine

open SeriesQuery.Query SeriesQuery.Series SeriesQuery.Store SeriesQuery.Table SeriesQuery.Text

/-! ## The width of a derived window -/

theorem width_of_derived {start finish : Int64} {count : Nat}
    (derived : start = finish - Int64.ofNat count) :
    finish - start + 1 = Int64.ofNat (count + 1) := by
  rw [derived, Int64.ofNat_add]
  grind

/-- A derived window that has not wrapped around ends as many seconds after its start as it counts. -/
theorem toInt_finish_of_derived {start finish : Int64} {count : Nat} (bounded : count < UInt64.size)
    (derived : start = finish - Int64.ofNat count) (ordered : start ≤ finish) :
    finish.toInt = start.toInt + count := by
  have reached : finish = Int64.ofInt (start.toInt + count) := by
    rw [← target_eq_ofInt, derived]
    grind
  have wraps : finish.toInt = (start.toInt + count).bmod (2 ^ 64) := by
    rw [reached]
    exact Int64.toInt_ofInt
  have startLow := start.le_toInt
  have finishHigh := finish.toInt_lt
  rw [Int64.le_iff_toInt_le] at ordered
  rw [UInt64.size] at bounded
  rw [Int.bmod_def] at wraps
  split at wraps <;> omega

/-! ## What the points count -/

theorem total_fillDense_beforeEnd {points : List Point} (increasing : Increasing points)
    {start finish : Int64} {count : Nat} (reaches : finish.toInt = start.toInt + count) :
    total (fillDense points start count) =
      total (points.filter fun point => start ≤ point.time ∧ point.time < finish) := by
  rw [total_fillDense increasing]
  simp only [Int64.lt_iff_toInt_lt, reaches]

theorem total_of_within {points : List Point} {start finish : Int64}
    (within : ∀ point ∈ points, start ≤ point.time ∧ point.time ≤ finish) :
    total (points.filter fun point => start ≤ point.time ∧ point.time < finish) +
        totalAt finish points = total points := by
  rw [totalAt, ← total_filter_or]
  · refine congrArg total (List.filter_eq_self.mpr fun point member => ?_)
    obtain ⟨fromStart, upToFinish⟩ := within point member
    simp only [Bool.or_eq_true, decide_eq_true_eq]
    grind
  · intro point inside
    have before := (of_decide_eq_true inside).2
    simp only [decide_eq_false_iff_not]
    grind

/-! ## What the scan gives -/

/-- The merged rows that the scan for a named series of a request gives. -/
def scannedSeries (store : Store) (resolution : UInt32) (query : Descriptor) (name : String) :
    List Point :=
  merge ((store.scanSeries resolution
    ⟨⟨query.context, name, query.tag, query.runId⟩, query.start, query.finish⟩).map
      SeriesRow.points)

theorem scannedSeries_increasing (store : Store) (resolution : UInt32) (query : Descriptor)
    (name : String) : Increasing (scannedSeries store resolution query name) := by
  apply merge_increasing
  rw [List.forall_mem_map]
  intro row inside
  exact scanSeries_increasing inside

theorem scannedSeries_reversed {store : Store} {resolution : UInt32} {query : Descriptor}
    {name : String} (reversed : query.finish < query.start) :
    scannedSeries store resolution query name = [] := by
  rw [scannedSeries, scanSeries, if_pos reversed]
  rfl

theorem within_of_mem_scannedSeries_one {store : Store} {query : Descriptor} {name : String}
    {point : Point} (member : point ∈ scannedSeries store 1 query name) :
    query.start ≤ point.time ∧ point.time ≤ query.finish := by
  obtain ⟨points, inRows, source, inside, same⟩ := exists_of_mem_merge member
  obtain ⟨row, scanned, rfl⟩ := List.mem_map.mp inRows
  have covered := covers_of_mem_scanSeries_one scanned inside
  rw [SeriesScan.covers, same] at covered
  simpa using covered

theorem total_fillDense_scannedSeries {query : Descriptor} (bounded : query.count < UInt64.size)
    (derived : query.start = query.finish - Int64.ofNat query.count) (store : Store)
    (resolution : UInt32) (name : String) :
    total (fillDense (scannedSeries store resolution query name) query.start query.count) =
      total ((scannedSeries store resolution query name).filter fun point =>
        query.start ≤ point.time ∧ point.time < query.finish) := by
  by_cases reversed : query.finish < query.start
  · rw [scannedSeries_reversed reversed, total_fillDense increasing_nil]
    rfl
  · have ordered : query.start ≤ query.finish := Int64.not_lt.mp reversed
    exact total_fillDense_beforeEnd (scannedSeries_increasing store resolution query name)
      (toInt_finish_of_derived bounded derived ordered)

/-! ## Answers -/

/-- A request whose start is derived from its end asks for one second more than it has points. The
answer counts what the scan gives from the start to the second before the end; at a resolution of one
second, that is all that the scan gives but for what stands at the end. -/
theorem execute_derivedWindow {reader : Reader} {now : Int64} {uri : String} {query : Descriptor}
    (accepted : reader.read now uri = .ok query) (counted : 1 ≤ query.count)
    (derived : value? (Form.pairs (splitUri uri.toList).2) "start" = none) :
    query.kind = .timeSeries ∧
      query.finish - query.start + 1 = Int64.ofNat (query.count + 1) ∧
      (query.start ≤ query.finish → query.finish.toInt = query.start.toInt + query.count) ∧
      ∀ (engine : Engine) (traffic : List Call) (store : Store) (name : String),
        Traffic.Reachable ⟨engine.tables, traffic⟩ →
        engine.tables.isLoaded engine.resolution = true ∨
          engine.resolution ∉ engine.tables.failing →
        query.metric = .named name →
        let scanned := scannedSeries store engine.resolution query name
        ∃ points, (engine.execute (.ofStore store) query).1 =
            .ok (.series ⟨query.start, query.finish, points⟩) ∧
          points.length = query.count ∧
          total points = total (scanned.filter fun point =>
            query.start ≤ point.time ∧ point.time < query.finish) ∧
          (engine.resolution = 1 →
            total points + totalAt query.finish scanned = total scanned) := by
  obtain ⟨kind, bounded, start⟩ := read_derived accepted counted derived
  refine ⟨kind, width_of_derived start, toInt_finish_of_derived bounded start, ?_⟩
  intro engine traffic store name reached constructible metric scanned
  have answered := execute_named reached.sound.consistent constructible kind metric
    (show (Backend.ofStore store).scanSeries engine.resolution (seriesScan query name query.tag) =
      .ok _ from rfl)
  have beforeEnd := total_fillDense_scannedSeries bounded start store engine.resolution name
  refine ⟨fillDense scanned query.start query.count, answered, ?_, beforeEnd, ?_⟩
  · simp [fillDense, length_valuesAt]
  · intro one
    have within : ∀ point ∈ scanned,
        query.start ≤ point.time ∧ point.time ≤ query.finish := by
      intro point member
      apply within_of_mem_scannedSeries_one
      rw [← one]
      exact member
    rw [beforeEnd, total_of_within within]

theorem execute_derivedWindow_fiveSeconds :
    let query : Descriptor :=
      ⟨"collect/bytes?count=5", .timeSeries, none, .named "bytes", none, none, 9995, 10000, 5⟩
    let store := (Store.empty.record ⟨"shop", "bytes", none, none⟩ 9999 3).record
      ⟨"shop", "bytes", none, none⟩ 10000 7
    query.finish - query.start + 1 = 6 ∧
      ∃ points, ((Engine.mk 1 (.empty false) .zero []).execute (.ofStore store) query).1 =
          .ok (.series ⟨9995, 10000, points⟩) ∧
        points.length = 5 ∧ total points + 7 = 10 := by
  intro query store
  have accepted : Reader.standard.read 10002 "collect/bytes?count=5" = .ok query := by
    decide +kernel
  have scanned : scannedSeries store 1 query "bytes" = [⟨9999, 3⟩, ⟨10000, 7⟩] := by
    rw [scannedSeries, scanSeries_single rfl 1 (by decide)]
    decide +kernel
  obtain ⟨_, width, _, answers⟩ := execute_derivedWindow accepted (by decide) (by decide +kernel)
  obtain ⟨points, answered, length, _, balance⟩ := answers (Engine.mk 1 (.empty false) .zero []) []
    store "bytes" (.idle false) (.inr (by decide)) rfl
  have sum := balance rfl
  rw [scanned] at sum
  exact ⟨width, points, answered, length, sum⟩

/-- The points of an answer leave out some of what the scan of a derived window gives: the window is a
second wider than there are points, and what stands in its last second is in the scan alone. At other
resolutions so is what falls into a bucket that starts before the window. -/
theorem derivedWindow_leavesOut :
    let uri := "collect/bytes?count=5"
    let query : Descriptor :=
      ⟨uri, .timeSeries, none, .named "bytes", none, none, 9995, 10000, 5⟩
    let store := Store.empty.record ⟨"shop", "bytes", none, none⟩ 10000 7
    let silent : List Point := [⟨9995, 0⟩, ⟨9996, 0⟩, ⟨9997, 0⟩, ⟨9998, 0⟩, ⟨9999, 0⟩]
    Reader.standard.read 10002 uri = .ok query ∧
      value? (Form.pairs (splitUri uri.toList).2) "start" = none ∧
      query.finish - query.start + 1 ≠ Int64.ofNat query.count ∧
      ∀ resolution ∈ [1, 60],
        ((Engine.mk resolution (.empty false) .zero []).execute (.ofStore store) query).1 =
          .ok (.series ⟨9995, 10000, silent⟩) ∧
        total silent ≠ total (scannedSeries store resolution query "bytes") := by
  intro uri query store silent
  have answered (resolution : UInt32) :
      ((Engine.mk resolution (.empty false) .zero []).execute (.ofStore store) query).1 =
        .ok (.series ⟨9995, 10000,
          fillDense (scannedSeries store resolution query "bytes") 9995 5⟩) :=
    execute_named (Tables.consistent_empty false) (.inr List.not_mem_nil) rfl rfl rfl
  refine ⟨by decide +kernel, by decide +kernel, by decide, ?_⟩
  intro resolution known
  rw [answered, scannedSeries, scanSeries_single rfl resolution (by decide)]
  simp only [List.mem_cons, List.not_mem_nil, or_false] at known
  rcases known with rfl | rfl
  · decide +kernel
  · decide +kernel

end SeriesQuery.Engine
