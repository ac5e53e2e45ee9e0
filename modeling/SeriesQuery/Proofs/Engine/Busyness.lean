import SeriesQuery.Proofs.Engine.Answer
import SeriesQuery.Proofs.Series.Cursor

set_option autoImplicit false

/-!
# The busyness as a ratio of two answers

A request for the busyness is answered with the quotients, second by second, of the answers to two
plain requests, both without a tag: one for the tuples read, one for the events processed. Whatever
the tables answer to scans, it fails if and only if one of the two does, with the error of the first
that fails.
-/

namespace SeriesQuery.Engine

open SeriesQuery.Query SeriesQuery.Series SeriesQuery.Store SeriesQuery.Table

/-! ## Series of quotients -/

theorem times_zipWith_mk {wanted values : List Int64} (enough : wanted.length ≤ values.length) :
    (List.zipWith Point.mk wanted values).map Point.time = wanted := by
  induction wanted generalizing values with
  | nil => rfl
  | cons target rest ih =>
      cases values with
      | nil => simp at enough
      | cons value values =>
          have restEnough : rest.length ≤ values.length := by simpa using enough
          rw [List.zipWith_cons_cons, List.map_cons, ih restEnough]

theorem times_fillDense (points : List Point) (start : Int64) (count : Nat) :
    (fillDense points start count).map Point.time = targets start count :=
  times_zipWith_mk (Nat.le_of_eq (length_valuesAt _ _).symm)

theorem times_ratioSeries (numerator denominator : List Point) (start : Int64) (count : Nat) :
    (ratioSeries numerator denominator start count).map Point.time = targets start count := by
  apply times_zipWith_mk
  simp only [List.length_zipWith, length_valuesAt, Nat.min_self, Nat.le_refl]

/-- The values of a series of quotients stand at the places of the values that are divided. -/
theorem ratioSeries_value {numerator denominator : List Point} {start : Int64} {count place : Nat}
    {top bottom ratio : Point} (hasTop : (fillDense numerator start count)[place]? = some top)
    (hasBottom : (fillDense denominator start count)[place]? = some bottom)
    (hasRatio : (ratioSeries numerator denominator start count)[place]? = some ratio) :
    ratio.value = ratioPercent top.value bottom.value := by
  simp only [fillDense, ratioSeries, List.getElem?_zipWith_eq_some] at hasTop hasBottom hasRatio
  obtain ⟨_, topValue, _, atTop, rfl⟩ := hasTop
  obtain ⟨_, bottomValue, _, atBottom, rfl⟩ := hasBottom
  obtain ⟨_, _, _, ⟨first, second, atFirst, atSecond, rfl⟩, rfl⟩ := hasRatio
  have sameTop : topValue = first := Option.some.inj (atTop.symm.trans atFirst)
  have sameBottom : bottomValue = second := Option.some.inj (atBottom.symm.trans atSecond)
  rw [sameTop, sameBottom]

/-- One series holds the quotients of two others, in percent. -/
structure IsRatio (numerator denominator ratio : SeriesAnswer) : Prop where
  start : ratio.start = numerator.start ∧ ratio.start = denominator.start
  finish : ratio.finish = numerator.finish ∧ ratio.finish = denominator.finish
  /-- The three have points at the same seconds, and so equally many. -/
  times : ratio.points.map Point.time = numerator.points.map Point.time ∧
    ratio.points.map Point.time = denominator.points.map Point.time
  values : ∀ (place : Nat) (top bottom quotient : Point), numerator.points[place]? = some top →
    denominator.points[place]? = some bottom → ratio.points[place]? = some quotient →
    quotient.value = if bottom.value = 0 then 0 else ratioPercent top.value bottom.value

theorem isRatio_ratioSeries (numerator denominator : List Point) (start finish : Int64)
    (count : Nat) :
    IsRatio ⟨start, finish, fillDense numerator start count⟩
      ⟨start, finish, fillDense denominator start count⟩
      ⟨start, finish, ratioSeries numerator denominator start count⟩ where
  start := ⟨rfl, rfl⟩
  finish := ⟨rfl, rfl⟩
  times := by simp only [times_fillDense, times_ratioSeries, and_self]
  values := by
    intro place top bottom quotient hasTop hasBottom hasQuotient
    rw [ratioSeries_value hasTop hasBottom hasQuotient]
    split
    · next zero => rw [ratioPercent, if_pos zero]
    · rfl

/-! ## Requests for the busyness -/

/-- How the answer to a request for a ratio comes from the answers to requests for its parts. -/
inductive RatioOf : Except Error Answer → Except Error Answer → Except Error Answer → Prop where
  | divided {numerator denominator ratio : SeriesAnswer} : IsRatio numerator denominator ratio →
      RatioOf (.ok (.series numerator)) (.ok (.series denominator)) (.ok (.series ratio))
  | numeratorFails {error : Error} {denominator : Except Error Answer} :
      RatioOf (.error error) denominator (.error error)
  | denominatorFails {numerator : Answer} {error : Error} :
      RatioOf (.ok numerator) (.error error) (.error error)

/-- The request for the untagged series of a named metric, in all else like another request. -/
def plainly (query : Descriptor) (name : String) : Descriptor :=
  { query with metric := .named name, tag := none }

/-- The answer to a request for the busyness is the ratio of the answers to two plain requests. -/
theorem execute_busyness (engine : Engine) (backend : Backend) {query : Descriptor}
    (kind : query.kind = .timeSeries) (metric : query.metric = .busyness) :
    RatioOf (engine.execute backend (plainly query "tuples.read")).1
      (engine.execute backend (plainly query "events.processed")).1
      (engine.execute backend query).1 := by
  have plainKind (name : String) : (plainly query name).kind = .timeSeries := kind
  rw [execute_timeSeries engine backend (plainKind _), execute_timeSeries engine backend (plainKind _),
    execute_timeSeries engine backend kind]
  cases (engine.tables.get engine.resolution).1.map Handle.resolution with
  | error cause => exact .numeratorFails
  | ok resolution =>
      have plainPoints (name : String) : pointsFor backend resolution (plainly query name) = do
          let points ← merged backend resolution (seriesScan query name none)
          return fillDense points query.start query.count := rfl
      have points : pointsFor backend resolution query = do
          let numerator ← merged backend resolution (seriesScan query "tuples.read" none)
          let denominator ← merged backend resolution (seriesScan query "events.processed" none)
          return ratioSeries numerator denominator query.start query.count := by
        rw [pointsFor, metric]
        rfl
      simp only [seriesOutcome, plainPoints, points]
      cases merged backend resolution (seriesScan query "tuples.read" none) with
      | error error => exact .numeratorFails
      | ok numerator =>
          cases merged backend resolution (seriesScan query "events.processed" none) with
          | error error => exact .denominatorFails
          | ok denominator => exact .divided (isRatio_ratioSeries _ _ _ _ _)

theorem execute_busyness_lockStep :
    let engine : Engine := ⟨1, .empty false, .zero, []⟩
    let backend : Backend :=
      ⟨fun _ scan => .ok <|
        if scan.filter = ⟨some "shop", "tuples.read", none, some "first"⟩ then
          [⟨⟨"shop", "tuples.read", none, none⟩, [⟨3, 5⟩, ⟨9, 1⟩, ⟨10, 25⟩, ⟨12, 7⟩]⟩]
        else [⟨⟨"shop", "events.processed", none, none⟩, [⟨10, 50⟩, ⟨11, 4⟩, ⟨13, 2⟩]⟩],
        fun _ => .ok []⟩
    let query : Descriptor :=
      ⟨"", .timeSeries, some "shop", .busyness, some "east", some "first", 9, 12, 4⟩
    (engine.execute backend (plainly query "tuples.read")).1 =
        .ok (.series ⟨9, 12, [⟨9, 1⟩, ⟨10, 25⟩, ⟨11, 0⟩, ⟨12, 7⟩]⟩) ∧
      (engine.execute backend (plainly query "events.processed")).1 =
        .ok (.series ⟨9, 12, [⟨9, 0⟩, ⟨10, 50⟩, ⟨11, 4⟩, ⟨12, 0⟩]⟩) ∧
      RatioOf (engine.execute backend (plainly query "tuples.read")).1
        (engine.execute backend (plainly query "events.processed")).1
        (engine.execute backend query).1 :=
  ⟨rfl, rfl, execute_busyness _ _ rfl rfl⟩

end SeriesQuery.Engine
