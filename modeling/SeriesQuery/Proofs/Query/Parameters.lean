import Mathlib.Control.Monad.Basic
import SeriesQuery.Proofs.Query.Window
import SeriesQuery.Proofs.Query.Words
import SeriesQuery.Proofs.Text.Numeral

set_option autoImplicit false

/-!
# What a query string settles

The rules by which the pairs of a query string settle the kind, the run and the window of a request.
A query string is accepted if and only if its pairs settle parameters by these rules. Of each name
the rules see the first value only, and of names other than those of parameters nothing.
-/

namespace SeriesQuery.Query

open SeriesQuery.Text SeriesQuery.Text.Numeral

/-! ## First values -/

/-- The first pair of a name has a value. -/
def FirstValue (pairs : List (List Char × List Char)) (name : String) (value : List Char) : Prop :=
  ∃ before after, pairs = before ++ (name.toList, value) :: after ∧
    ∀ pair ∈ before, pair.1 ≠ name.toList

def Absent (pairs : List (List Char × List Char)) (name : String) : Prop :=
  ∀ pair ∈ pairs, pair.1 ≠ name.toList

theorem value?_eq_some_iff {pairs : List (List Char × List Char)} {name : String}
    {value : List Char} : value? pairs name = some value ↔ FirstValue pairs name value := by
  rw [value?, List.lookup_eq_some_iff]
  simp only [bne_iff_ne, FirstValue, ne_comm]

theorem value?_eq_none_iff {pairs : List (List Char × List Char)} {name : String} :
    value? pairs name = none ↔ Absent pairs name := by
  rw [value?, List.lookup_eq_none_iff]
  simp only [bne_iff_ne, Absent, ne_comm]

/-! ## The rules -/

/-- An end of a window is the second that the pairs give for it, or another if they give none. -/
inductive Bound (pairs : List (List Char × List Char)) (name : String) (otherwise : Int64) :
    Int64 → Prop where
  | given {value : List Char} {second : Int64} : FirstValue pairs name value →
      IntegerLiteral (trim value) second.toInt → Bound pairs name otherwise second
  | absent : Absent pairs name → Bound pairs name otherwise otherwise

/-- A flag is set by `true` in any case of letters. -/
def Flagged (pairs : List (List Char × List Char)) (flag : String) : Prop :=
  ∃ value, FirstValue pairs flag value ∧ Spells (String.ofList (trim value)) "true"

/-- The run that is asked for: an empty one counts as absent. -/
inductive RunAsked (pairs : List (List Char × List Char)) : Option String → Prop where
  | given {value : List Char} : FirstValue pairs "run_id" value → value ≠ [] →
      RunAsked pairs (some (String.ofList value))
  | empty : FirstValue pairs "run_id" [] → RunAsked pairs none
  | absent : Absent pairs "run_id" → RunAsked pairs none

/-- What pairs settle. A count settles the kind and the window, whatever the flags say. Seconds wrap
around at 64 bits. -/
inductive Settles (clock : Clock) (pairs : List (List Char × List Char)) : Parameters → Prop where
  | window {value : List Char} {count : Nat} {run : Option String} {start finish : Int64} :
      FirstValue pairs "count" value → NaturalLiteral (trim value) count →
      count < UInt64.size → count ≤ clock.maxCount →
      Bound pairs "end" (clock.now - clock.delay) finish →
      Bound pairs "start" (finish - Int64.ofNat count) start →
      RunAsked pairs run → Settles clock pairs ⟨.timeSeries, run, start, finish, count⟩
  | timeSeries {run : Option String} : Absent pairs "count" → Flagged pairs "time_series" →
      RunAsked pairs run → Settles clock pairs ⟨.timeSeries, run, 0, 0, 0⟩
  | aggregate {run : Option String} : Absent pairs "count" → ¬ Flagged pairs "time_series" →
      Flagged pairs "aggregate" → RunAsked pairs run →
      Settles clock pairs ⟨.aggregate, run, 0, 0, 0⟩

/-! ## Readers of single parameters -/

theorem readCount_eq_ok_iff {value : List Char} {count : Nat} :
    readCount value = .ok count ↔ NaturalLiteral (trim value) count ∧ count < UInt64.size := by
  rw [← natural?_eq_some_iff, readCount]
  cases natural? UInt64.size (trim value) <;> simp

theorem readSecond_eq_ok_iff {parameter : NumberParameter} {value : List Char} {second : Int64} :
    readSecond parameter value = .ok second ↔ IntegerLiteral (trim value) second.toInt := by
  rw [← int64?_eq_some_iff, readSecond]
  cases int64? (trim value) <;> simp

/-- The end of a window for a parameter, which is another if the pairs give none. -/
def readBound (pairs : List (List Char × List Char)) (parameter : NumberParameter)
    (otherwise : Int64) : Except Refusal Int64 :=
  match value? pairs parameter.text with
  | some value => readSecond parameter value
  | none => .ok otherwise

theorem readBound_eq_ok_iff {pairs : List (List Char × List Char)} {parameter : NumberParameter}
    {otherwise second : Int64} :
    readBound pairs parameter otherwise = .ok second ↔
      Bound pairs parameter.text otherwise second := by
  rw [readBound]
  constructor
  · intro read
    split at read
    · next value found =>
        exact .given (value?_eq_some_iff.mp found) (readSecond_eq_ok_iff.mp read)
    · next missing =>
        cases read
        exact .absent (value?_eq_none_iff.mp missing)
  · intro bound
    cases bound with
    | given first literal =>
        rw [value?_eq_some_iff.mpr first]
        exact readSecond_eq_ok_iff.mpr literal
    | absent absent => rw [value?_eq_none_iff.mpr absent]

theorem readWindow_eq (clock : Clock) (count : Nat) (pairs : List (List Char × List Char)) :
    readWindow clock count pairs =
      readBound pairs .finish (clock.now - clock.delay) >>= fun finish =>
        readBound pairs .start (finish - Int64.ofNat count) >>= fun start =>
          .ok (start, finish) := by
  rw [readWindow]
  cases ended : value? pairs NumberParameter.finish.text <;>
    cases started : value? pairs NumberParameter.start.text <;>
    simp only [readBound, ended, started] <;> rfl

theorem readWindow_eq_ok_iff {clock : Clock} {count : Nat}
    {pairs : List (List Char × List Char)} {start finish : Int64} :
    readWindow clock count pairs = .ok (start, finish) ↔
      Bound pairs "end" (clock.now - clock.delay) finish ∧
        Bound pairs "start" (finish - Int64.ofNat count) start := by
  rw [readWindow_eq]
  simp only [bind_eq_ok, readBound_eq_ok_iff]
  constructor
  · intro given
    obtain ⟨_, ended, _, started, ⟨⟩⟩ := given
    exact ⟨ended, started⟩
  · intro given
    exact ⟨finish, given.1, start, given.2, rfl⟩

theorem isSet_iff {pairs : List (List Char × List Char)} {flag : String} :
    isSet pairs flag = true ↔ Flagged pairs flag := by
  simp only [isSet, Flagged, ← value?_eq_some_iff]
  cases value? pairs flag with
  | some value =>
      have spelled : sameLetters (String.ofList (trim value)) "true" = true ↔
          Spells (String.ofList (trim value)) "true" := by
        rw [sameLetters_comm, sameLetters_iff (by decide)]
      simp [spelled]
  | none => simp

theorem readRunId_eq_iff {pairs : List (List Char × List Char)} {run : Option String} :
    readRunId pairs = run ↔ RunAsked pairs run := by
  rw [readRunId]
  constructor
  · rintro rfl
    cases found : value? pairs "run_id" with
    | none => exact .absent (value?_eq_none_iff.mp found)
    | some value =>
        have first := value?_eq_some_iff.mp found
        by_cases empty : value = []
        · subst empty
          exact .empty first
        · rw [Option.filter_some, if_pos (by simpa using empty)]
          exact .given first empty
  · intro asked
    cases asked with
    | given first nonempty =>
        rw [value?_eq_some_iff.mpr first, Option.filter_some, if_pos (by simpa using nonempty)]
        rfl
    | empty first => rw [value?_eq_some_iff.mpr first]; rfl
    | absent absent => rw [value?_eq_none_iff.mpr absent]; rfl

/-! ## All parameters -/

theorem ofPairs_of_count {clock : Clock} {pairs : List (List Char × List Char)}
    {value : List Char} (first : FirstValue pairs "count" value) {parameters : Parameters} :
    Parameters.ofPairs clock pairs = .ok parameters ↔ ∃ count start finish,
      readCount value = .ok count ∧ count ≤ clock.maxCount ∧
        readWindow clock count pairs = .ok (start, finish) ∧
        parameters = ⟨.timeSeries, readRunId pairs, start, finish, count⟩ := by
  have found : value? pairs NumberParameter.count.text = some value := value?_eq_some_iff.mpr first
  simp only [Parameters.ofPairs, found, bind_eq_ok]
  constructor
  · intro given
    obtain ⟨count, counted, afterCount⟩ := given
    split at afterCount
    · cases afterCount
    · next small =>
        obtain ⟨⟨start, finish⟩, window, made⟩ := bind_eq_ok.mp afterCount
        cases made
        exact ⟨count, start, finish, counted, Nat.not_lt.mp small, window, rfl⟩
  · intro given
    obtain ⟨count, start, finish, counted, small, window, rfl⟩ := given
    refine ⟨count, counted, ?_⟩
    rw [if_neg (Nat.not_lt.mpr small)]
    exact bind_eq_ok.mpr ⟨(start, finish), window, rfl⟩

theorem ofPairs_of_noCount {clock : Clock} {pairs : List (List Char × List Char)}
    (absent : Absent pairs "count") {parameters : Parameters} :
    Parameters.ofPairs clock pairs = .ok parameters ↔
      (Flagged pairs "time_series" ∧ parameters = ⟨.timeSeries, readRunId pairs, 0, 0, 0⟩) ∨
        (¬ Flagged pairs "time_series" ∧ Flagged pairs "aggregate" ∧
          parameters = ⟨.aggregate, readRunId pairs, 0, 0, 0⟩) := by
  have missing : value? pairs NumberParameter.count.text = none := value?_eq_none_iff.mpr absent
  have series_iff : isSet pairs Kind.timeSeries.flag = true ↔ Flagged pairs "time_series" :=
    isSet_iff
  have aggregate_iff : isSet pairs Kind.aggregate.flag = true ↔ Flagged pairs "aggregate" :=
    isSet_iff
  simp only [Parameters.ofPairs, missing]
  rw [← series_iff, ← aggregate_iff]
  -- The flag for a time series comes first, so the other one is seen only where it is not set.
  split
  · next series =>
      constructor
      · intro given
        cases given
        exact .inl ⟨series, rfl⟩
      · intro given
        rcases given with ⟨_, rfl⟩ | ⟨notSeries, _⟩
        · rfl
        · exact absurd series notSeries
  · next notSeries =>
      split
      · next aggregate =>
          constructor
          · intro given
            cases given
            exact .inr ⟨notSeries, aggregate, rfl⟩
          · intro given
            rcases given with ⟨series, _⟩ | ⟨_, _, rfl⟩
            · exact absurd series notSeries
            · rfl
      · next notAggregate =>
          constructor
          · intro given
            cases given
          · intro given
            rcases given with ⟨series, _⟩ | ⟨_, aggregate, _⟩
            · exact absurd series notSeries
            · exact absurd aggregate notAggregate

theorem ofPairs_eq_ok_iff {clock : Clock} {pairs : List (List Char × List Char)}
    {parameters : Parameters} :
    Parameters.ofPairs clock pairs = .ok parameters ↔ Settles clock pairs parameters := by
  constructor
  · intro read
    cases found : value? pairs "count" with
    | some value =>
        have first := value?_eq_some_iff.mp found
        obtain ⟨count, start, finish, counted, small, window, rfl⟩ := (ofPairs_of_count first).mp read
        obtain ⟨literal, bounded⟩ := readCount_eq_ok_iff.mp counted
        obtain ⟨ended, started⟩ := readWindow_eq_ok_iff.mp window
        exact .window first literal bounded small ended started (readRunId_eq_iff.mp rfl)
    | none =>
        have absent := value?_eq_none_iff.mp found
        have asked := readRunId_eq_iff.mp (rfl : readRunId pairs = _)
        rcases (ofPairs_of_noCount absent).mp read with ⟨series, rfl⟩ | ⟨notSeries, aggregate, rfl⟩
        · exact .timeSeries absent series asked
        · exact .aggregate absent notSeries aggregate asked
  · intro settled
    cases settled with
    | window first literal bounded small ended started asked =>
        rw [ofPairs_of_count first]
        exact ⟨_, _, _, readCount_eq_ok_iff.mpr ⟨literal, bounded⟩, small,
          readWindow_eq_ok_iff.mpr ⟨ended, started⟩, by rw [readRunId_eq_iff.mpr asked]⟩
    | timeSeries absent series asked =>
        rw [ofPairs_of_noCount absent, readRunId_eq_iff.mpr asked]
        exact .inl ⟨series, rfl⟩
    | aggregate absent notSeries aggregate asked =>
        rw [ofPairs_of_noCount absent, readRunId_eq_iff.mpr asked]
        exact .inr ⟨notSeries, aggregate, rfl⟩

/-! ## Pairs that make no difference -/

def parameterNames : List String :=
  ["count", "start", "end", "run_id", "time_series", "aggregate"]

/-- Two lists of pairs that differ in nothing that the rules see. -/
inductive Rearranged : List (List Char × List Char) → List (List Char × List Char) → Prop where
  /-- Pairs of different names change places, those of one name stay in order. -/
  | reorder {pairs others : List (List Char × List Char)} :
      (∀ name, pairs.filter (·.1 = name) = others.filter (·.1 = name)) → Rearranged pairs others
  | unknown {before after : List (List Char × List Char)} {pair : List Char × List Char} :
      (∀ name ∈ parameterNames, pair.1 ≠ name.toList) →
      Rearranged (before ++ after) (before ++ pair :: after)
  | repeated {before after : List (List Char × List Char)} {earlier pair : List Char × List Char} :
      earlier ∈ before → earlier.1 = pair.1 →
      Rearranged (before ++ after) (before ++ pair :: after)
  | symm {pairs others : List (List Char × List Char)} : Rearranged pairs others →
      Rearranged others pairs
  | trans {pairs between others : List (List Char × List Char)} : Rearranged pairs between →
      Rearranged between others → Rearranged pairs others

theorem lookup_eq_filter (pairs : List (List Char × List Char)) (name : List Char) :
    pairs.lookup name = ((pairs.filter (·.1 = name)).head?).map Prod.snd := by
  induction pairs with
  | nil => rfl
  | cons pair rest ih =>
      rw [List.lookup_cons]
      by_cases same : name = pair.1
      · simp [same]
      · have other : (name == pair.1) = false := beq_eq_false_iff_ne.mpr same
        rw [other, ih, List.filter_cons_of_neg (by simpa using Ne.symm same)]

theorem lookup_insert {before after : List (List Char × List Char)}
    {pair : List Char × List Char} {name : List Char}
    (shadowed : pair.1 = name → ∃ earlier ∈ before, earlier.1 = name) :
    (before ++ pair :: after).lookup name = (before ++ after).lookup name := by
  rw [List.lookup_append, List.lookup_append, List.lookup_cons]
  split
  · next same =>
      obtain ⟨earlier, member, rfl⟩ := shadowed (eq_of_beq same).symm
      cases found : before.lookup earlier.1 with
      | some value => rfl
      | none =>
          have missing := List.lookup_eq_none_iff.mp found earlier member
          simp at missing
  · rfl

theorem Rearranged.value?_eq {pairs others : List (List Char × List Char)}
    (rearranged : Rearranged pairs others) :
    ∀ name ∈ parameterNames, value? pairs name = value? others name := by
  intro name known
  induction rearranged with
  | reorder same => rw [value?, value?, lookup_eq_filter, lookup_eq_filter, same]
  | unknown foreign => exact (lookup_insert fun same => absurd same (foreign name known)).symm
  | repeated member same =>
      exact (lookup_insert fun named => ⟨_, member, same.trans named⟩).symm
  | symm _ ih => exact ih.symm
  | trans _ _ first second => exact first.trans second

theorem ofPairs_congr {pairs others : List (List Char × List Char)}
    (same : ∀ name ∈ parameterNames, value? pairs name = value? others name) (clock : Clock) :
    Parameters.ofPairs clock pairs = Parameters.ofPairs clock others := by
  have count : value? pairs NumberParameter.count.text = value? others NumberParameter.count.text :=
    same "count" (by decide)
  have run : readRunId pairs = readRunId others := by
    rw [readRunId, readRunId, same "run_id" (by decide)]
  have window (count : Nat) : readWindow clock count pairs = readWindow clock count others := by
    have finish := same "end" (by decide)
    have start := same "start" (by decide)
    simp only [readWindow_eq, readBound, NumberParameter.text, finish, start]
  have series : isSet pairs Kind.timeSeries.flag = isSet others Kind.timeSeries.flag := by
    rw [isSet, isSet, Kind.flag, same "time_series" (by decide)]
  have aggregate : isSet pairs Kind.aggregate.flag = isSet others Kind.aggregate.flag := by
    rw [isSet, isSet, Kind.flag, same "aggregate" (by decide)]
  simp only [Parameters.ofPairs, count, run, window, series, aggregate]

/-! ## Query strings -/

def Descriptor.make (uri : String) (selection : Selection) (parameters : Parameters) :
    Descriptor where
  sourceUri := uri
  kind := parameters.kind
  context := selection.context
  metric := Metric.ofName selection.metric
  tag := selection.tag
  runId := parameters.runId
  start := parameters.start
  finish := parameters.finish
  count := parameters.count

theorem read_eq_make (reader : Reader) (now : Int64) (uri : String) :
    reader.read now uri =
      (segments (splitUri uri.toList).1 >>= select) >>= fun selection =>
        Parameters.read (reader.clock now) (splitUri uri.toList).2 >>= fun parameters =>
          .ok (.make uri selection parameters) := by
  obtain ⟨path, query, split⟩ : ∃ path query, splitUri uri.toList = (path, query) := ⟨_, _, rfl⟩
  rw [Reader.read, split]
  rfl

theorem exists_read_iff {reader : Reader} {now : Int64} {uri : String} {selection : Selection}
    (selected : (segments (splitUri uri.toList).1 >>= select) = .ok selection)
    {parameters : Parameters} :
    (∃ request, reader.read now uri = .ok request ∧ request.parameters = parameters) ↔
      Parameters.read (reader.clock now) (splitUri uri.toList).2 = .ok parameters := by
  constructor
  · intro given
    obtain ⟨request, read, rfl⟩ := given
    exact parameters_of_read read
  · intro given
    refine ⟨.make uri selection parameters, ?_, rfl⟩
    rw [read_eq_make]
    exact bind_eq_ok.mpr ⟨selection, selected, bind_eq_ok.mpr ⟨parameters, given, rfl⟩⟩

/-- A query string is accepted if and only if its pairs settle parameters, and then it reads as these,
and so does every request with that query string and an accepted path. Pairs that change places with
others, that have unknown names or that repeat a name make no difference, not even to a refusal. -/
theorem read_eq_ok_iff_settles (clock : Clock) (query : List Char) :
    (∀ parameters, Parameters.read clock query = .ok parameters ↔
      Settles clock (Form.pairs query) parameters) ∧
    (∀ (reader : Reader) (now : Int64) (uri : String) (selection : Selection),
      reader.clock now = clock → (splitUri uri.toList).2 = query →
      (segments (splitUri uri.toList).1 >>= select) = .ok selection →
      ∀ parameters, (∃ request, reader.read now uri = .ok request ∧
        request.parameters = parameters) ↔ Settles clock (Form.pairs query) parameters) ∧
    ∀ other, Rearranged (Form.pairs query) (Form.pairs other) →
      Parameters.read clock other = Parameters.read clock query := by
  have accepted (parameters : Parameters) :
      Parameters.read clock query = .ok parameters ↔
        Settles clock (Form.pairs query) parameters := ofPairs_eq_ok_iff
  refine ⟨accepted, ?_, ?_⟩
  · intro reader now uri selection sameClock sameQuery selected parameters
    rw [exists_read_iff selected, sameClock, sameQuery, accepted]
  · intro other rearranged
    exact (ofPairs_congr rearranged.value?_eq clock).symm

theorem read_eq_ok_iff_settles_count :
    let clock : Clock := ⟨10002, 2, 100⟩
    let query := "count=%2B5&run_id=a+b&end=100".toList
    let other := "run_id=a+b&end=100&run_id=c&count=%2B5&from=7".toList
    let settled : Parameters := ⟨.timeSeries, some "a b", 95, 100, 5⟩
    Settles clock (Form.pairs query) settled ∧
      (∃ request, (Reader.mk 2 100).read 10002 "collect/bytes?count=%2B5&run_id=a+b&end=100" =
        .ok request ∧ request.parameters = settled) ∧
      Parameters.read clock other = .ok settled := by
  intro clock query other settled
  have read : Parameters.read clock query = .ok settled := by decide +kernel
  obtain ⟨accepted, requests, rearranged⟩ := read_eq_ok_iff_settles clock query
  have settles := (accepted settled).mp read
  refine ⟨settles, ?_, ?_⟩
  · exact (requests ⟨2, 100⟩ 10002 _ ⟨none, "bytes", none⟩ rfl (by decide +kernel)
      (by decide +kernel) settled).mpr settles
  · rw [← read]
    apply rearranged
    have pairs : Form.pairs query =
        [] ++ ("count".toList, "+5".toList) :: [("run_id".toList, "a b".toList),
          ("end".toList, "100".toList)] := by decide +kernel
    have others : Form.pairs other =
        [("run_id".toList, "a b".toList), ("end".toList, "100".toList),
          ("run_id".toList, "c".toList), ("count".toList, "+5".toList)] ++
          ("from".toList, "7".toList) :: [] := by decide +kernel
    rw [pairs, others]
    refine .trans ?_ (.unknown (by decide))
    refine .trans ?_ (@Rearranged.repeated
      [("run_id".toList, "a b".toList), ("end".toList, "100".toList)]
      [("count".toList, "+5".toList)] ("run_id".toList, "a b".toList) _ List.mem_cons_self rfl)
    refine .reorder ?_
    intro name
    by_cases first : "count".toList = name
    · subst first
      decide
    · have other : ¬ decide ("count".toList = name) = true :=
        fun same => first (of_decide_eq_true same)
      rw [List.nil_append, List.filter_cons_of_neg (a := ("count".toList, "+5".toList)) other,
        List.filter_append, List.filter_cons_of_neg (a := ("count".toList, "+5".toList)) other,
        List.filter_nil, List.append_nil]

end SeriesQuery.Query
