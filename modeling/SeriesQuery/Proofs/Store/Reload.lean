import SeriesQuery.Proofs.Batch.Wire
import SeriesQuery.Proofs.Store.Dump

set_option autoImplicit false

/-!
# Reloading a dump

A fixture is read back from every text that spells it, and a store that is filled from a dump, or that
is loaded from a file with the dump in it, holds the rows that were dumped.
-/

namespace SeriesQuery

open SeriesQuery.Series SeriesQuery.Store SeriesQuery.Text

namespace Store

/-! ## Rows in JSON -/

theorem optionalText?_ofText? (text : Option String) :
    optionalText? (some (Json.ofText? text)) = some text := by
  cases text <;> rfl

theorem SeriesRow.ofJson?_toJson (row : SeriesRow) : SeriesRow.ofJson? row.toJson = some row := by
  have points := Json.toList?_map Point.ofJson?_toJson row.points
  simp [SeriesRow.ofJson?, SeriesRow.toJson, RowKey.members, RowKey.ofMembers?, Json.ofMembers,
    Json.record?, Json.membersNamed, optionalText?_ofText?, points]

theorem TotalRow.ofJson?_toJson (row : TotalRow) : TotalRow.ofJson? row.toJson = some row := by
  simp [TotalRow.ofJson?, TotalRow.toJson, RowKey.members, RowKey.ofMembers?, Json.ofMembers,
    Json.record?, Json.membersNamed, optionalText?_ofText?]

theorem printable_ofText? (text : Option String) : Json.Printable (Json.ofText? text) := by
  cases text with
  | none => exact .null
  | some text => exact .text text

theorem printable_members (key : RowKey) : ∀ member ∈ key.members, Json.Printable member.2 := by
  simp [RowKey.members, Json.ofText, printable_ofText?, Json.Printable.text]

theorem SeriesRow.printable_toJson (row : SeriesRow) : Json.Printable row.toJson := by
  have point (point : Point) : Json.Printable point.toJson := by
    apply Json.printable_ofMembers
    simp [Json.printable_ofInt64]
  have points : Json.Printable (.array (row.points.map Point.toJson)) := by
    apply Json.Printable.array
    simp [point]
  apply Json.printable_ofMembers
  exact List.forall_mem_append.mpr ⟨printable_members row.key, by simpa using points⟩

theorem TotalRow.printable_toJson (row : TotalRow) : Json.Printable row.toJson := by
  apply Json.printable_ofMembers
  exact List.forall_mem_append.mpr
    ⟨printable_members row.key, by simpa using Json.printable_ofInt64 row.value⟩

end Store

namespace Fixture

theorem ofJson?_toJson (fixture : Fixture) : ofJson? fixture.toJson = some fixture := by
  have series := Json.toList?_map SeriesRow.ofJson?_toJson fixture.series
  have totals := Json.toList?_map TotalRow.ofJson?_toJson fixture.totals
  simp [ofJson?, toJson, Json.ofMembers, Json.record?, Json.membersNamed, Json.orDefault, series,
    totals]

theorem printable_toJson (fixture : Fixture) : Json.Printable fixture.toJson := by
  have series : Json.Printable (.array (fixture.series.map SeriesRow.toJson)) := by
    apply Json.Printable.array
    simp [SeriesRow.printable_toJson]
  have totals : Json.Printable (.array (fixture.totals.map TotalRow.toJson)) := by
    apply Json.Printable.array
    simp [TotalRow.printable_toJson]
  apply Json.printable_ofMembers
  simp [series, totals]

/-- A text spells a fixture: with any blanks between its tokens, and with any escapes in its strings. -/
def Spells (fixture : Fixture) (text : String) : Prop :=
  Json.Spelled fixture.toJson.toTokens (text.toList.map some)

theorem spells_compact (fixture : Fixture) : fixture.Spells fixture.toJson.compact := by
  unfold Spells Json.compact
  rw [String.toList_ofList]
  exact fixture.printable_toJson.spelled

theorem Spells.read? {fixture : Fixture} {text : String} (spells : fixture.Spells text) :
    Fixture.read? text = some fixture := by
  unfold Fixture.read?
  rw [Json.read?_of_spelled spells, Option.bind_some, ofJson?_toJson]

end Fixture

namespace Store

/-! ## Stores -/

theorem load_of_spells {fixture : Fixture} {files : Files} {path text : String}
    (found : files path = .ok text) (spells : fixture.Spells text) :
    load files path = .ok (ofFixture fixture) := by
  unfold load
  rw [found]
  dsimp only
  rw [spells.read?]

/-- A fixture holds what a store holds, and the store can be filled from it again. -/
structure Restores (fixture : Fixture) (store : Store) : Prop where
  /-- It holds every row of the store with all its points, -/
  series : fixture.series.Perm store.series
  totals : fixture.totals.Perm store.totals
  /-- and no row twice. -/
  seriesOnce : Distinct SeriesRow.key fixture.series
  totalsOnce : Distinct TotalRow.key fixture.totals
  refilled : SameRows (ofFixture fixture) store
  /-- The store can also be loaded from any file in which the fixture is written, -/
  reloaded : ∀ (files : Files) (path text : String), files path = .ok text → fixture.Spells text →
    ∃ loaded, load files path = .ok loaded ∧ SameRows loaded store
  /-- and its compact text is one way to write it. -/
  written : fixture.Spells fixture.toJson.compact

theorem restores_dump_of_kept {store : Store} (filled : ∀ row ∈ store.series, row.Filled)
    (keyed : Keyed store) : Restores store.dump store := by
  have series := dump_series filled
  have totals := dump_totals store
  have seriesOnce : Distinct SeriesRow.key store.dump.series :=
    (series.map SeriesRow.key).nodup_iff.mpr keyed.series
  have totalsOnce : Distinct TotalRow.key store.dump.totals :=
    (totals.map TotalRow.key).nodup_iff.mpr keyed.totals
  have refilled : SameRows (ofFixture store.dump) store := by
    rw [ofFixture_of_distinct (fun row member => filled row (series.mem_iff.mp member)) seriesOnce
      totalsOnce]
    exact ⟨series, totals⟩
  refine ⟨series, totals, seriesOnce, totalsOnce, refilled, ?_, store.dump.spells_compact⟩
  intro files path text found spells
  exact ⟨_, load_of_spells found spells, refilled⟩

/-- Whatever calls have filled a store, from a fixture or from nothing, and in whichever order it goes
through its rows, what it holds is restored from its dump. -/
theorem restores_dump (fixture : Fixture) (calls : List Write) {store : Store}
    (same : SameRows store (calls.foldl write (ofFixture fixture))) : Restores store.dump store := by
  have nothing : ∀ row ∈ empty.series, row.Filled := by
    intro row member
    cases member
  have writes : calls.foldl write (ofFixture fixture) = ofWrites (fixtureWrites fixture ++ calls) := by
    rw [ofFixture_eq_ofWrites, ofWrites, ofWrites, List.foldl_append]
  rw [writes] at same
  have filled := filled_writes nothing (fixtureWrites fixture ++ calls)
  have keyed := keyed_ofWrites (fixtureWrites fixture ++ calls)
  apply restores_dump_of_kept
  · exact fun row member => filled row (same.series.mem_iff.mp member)
  · exact ⟨(same.series.map _).nodup_iff.mpr keyed.series,
      (same.totals.map _).nodup_iff.mpr keyed.totals⟩

theorem restores_dump_extremes :
    let tagged := SeriesRow.mk ⟨"", "", some "", none⟩ [⟨Int64.minValue, 0⟩]
    let untagged := SeriesRow.mk ⟨"shop", "bytes", none, some ""⟩ [⟨Int64.maxValue, 5⟩]
    let fixture := Fixture.mk [tagged] [⟨⟨"", "", none, none⟩, 0⟩]
    let calls := [Write.record ⟨untagged.key, Int64.maxValue, 5⟩]
    let store := Store.mk [untagged, tagged] fixture.totals
    SameRows store (calls.foldl write (ofFixture fixture)) ∧ Restores store.dump store := by
  intro tagged untagged fixture calls store
  have filled : calls.foldl write (ofFixture fixture) = ⟨[tagged, untagged], fixture.totals⟩ := by
    decide +kernel
  have same : SameRows store (calls.foldl write (ofFixture fixture)) := by
    rw [filled]
    exact ⟨.swap _ _ _, .refl _⟩
  exact ⟨same, restores_dump fixture calls same⟩

end Store

end SeriesQuery
