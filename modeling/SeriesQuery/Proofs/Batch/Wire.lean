import Mathlib.Data.List.Forall2
import SeriesQuery.Batch.Envelope
import SeriesQuery.Proofs.Json.Printed
import SeriesQuery.Proofs.Text.Items
import SeriesQuery.Proofs.Text.Numeral

set_option autoImplicit false

/-!
# Answers and envelopes on the wire

What an answer or an envelope is written as is read as the same answer or envelope. No value is read
both as a series and as a total, in whatever order the two are tried, because what `data` holds is an
array in one and a number in the other.
-/

namespace SeriesQuery

open SeriesQuery.Text SeriesQuery.Series SeriesQuery.Batch

namespace Json

/-! ## Fields -/

@[simp] theorem toInt64?_ofInt64 (value : Int64) : (ofInt64 value).toInt64? = some value := by
  have whole : (ofInt64 value).toInt? = some value.toInt := by
    simp only [ofInt64, ofInt, toInt?, Number.toInt?, Bool.not_true, Bool.false_or, Bool.and_eq_true,
      decide_eq_true_eq, beq_iff_eq, Int.natAbs_eq_zero]
    rw [if_neg (by omega)]
    split <;> exact congrArg some (by omega)
  rw [toInt64?, whole, Option.filter_some, if_pos (Numeral.inInt64_toInt value), Option.map_some,
    Int64.ofInt_toInt]

@[simp] theorem toText?_ofText (text : String) : (ofText text).toText? = some text :=
  rfl

theorem toList?_map {Value : Type} {read : Json → Option Value} {write : Value → Json}
    (reads : ∀ value, read (write value) = some value) (values : List Value) :
    (Json.array (values.map write)).toList? read = some values :=
  mapM_map reads values

/-! ## Records -/

theorem length_of_record?_array {names : List String} {least : Nat} {items : List Json}
    {fields : List (Option Json)} (read : record? names least (.array items) = some fields) :
    least ≤ items.length ∧ items.length ≤ names.length := by
  rw [record?] at read
  split at read
  · cases read
  · omega

/-- An object holds each name as often as a member was read for it. -/
theorem membersNamed_of_record? {names : List String} {least : Nat}
    {members : List (Option String × Json)} {fields : List (Option Json)}
    (read : record? names least (.object members) = some fields) :
    List.Forall₂ (fun name field => membersNamed name members = field.toList) names fields := by
  rw [record?] at read
  split at read
  · cases read
  · clear * - read
    induction names generalizing fields with
    | nil =>
        cases read
        exact .nil
    | cons name rest ih =>
        rw [List.mapM_cons] at read
        obtain ⟨field, isField, read⟩ := Option.bind_eq_some_iff.mp read
        obtain ⟨others, isOthers, read⟩ := Option.bind_eq_some_iff.mp read
        cases read
        refine .cons ?_ (ih isOthers)
        split at isField
        · next absent =>
            cases isField
            exact absent
        · next value present =>
            cases isField
            exact present
        · cases isField

/-! ## What is kept of a record -/

/-- Numbers of 64 bits are far from the end of the range of doubles. -/
theorem isPlain_ofInt64 (value : Int64) : (ofInt64 value).isPlain = true := by
  have low := value.le_toInt
  have high := value.toInt_lt
  have small : value.toInt.natAbs < UInt64.size := by
    have size : UInt64.size = 18446744073709551616 := rfl
    omega
  simp only [ofInt64, ofInt, isPlain, Number.isFinite, Decimal.fitsProduct]
  rw [Decimal.shorten_of_lt small]
  simp

theorem printable_ofInt64 (value : Int64) : Printable (ofInt64 value) :=
  .integer _ _

theorem printable_ofMembers {members : List (String × Json)}
    (all : ∀ member ∈ members, Printable member.2) : Printable (ofMembers members) := by
  refine .object ?_ ?_
  · rintro _ inside
    obtain ⟨⟨name, value⟩, _, rfl⟩ := List.mem_map.mp inside
    rfl
  · rintro _ inside
    obtain ⟨member, isMember, rfl⟩ := List.mem_map.mp inside
    exact all member isMember

theorem arePlainItems_of_forall {items : List Json} (all : ∀ item ∈ items, item.isPlain = true) :
    arePlainItems items = true := by
  induction items with
  | nil => rfl
  | cons item rest ih =>
      obtain ⟨first, others⟩ := List.forall_mem_cons.mp all
      rw [arePlainItems, first, ih others, Bool.and_self]

theorem depthOfItems_le {items : List Json} {most : Nat} (all : ∀ item ∈ items, item.depth ≤ most) :
    depthOfItems items ≤ most := by
  induction items with
  | nil => exact Nat.zero_le _
  | cons item rest ih =>
      obtain ⟨first, others⟩ := List.forall_mem_cons.mp all
      exact Nat.max_le.mpr ⟨first, ih others⟩

end Json

/-! ## Answers -/

@[simp] theorem Series.Point.ofJson?_toJson (point : Point) : Point.ofJson? point.toJson = some point := by
  simp [Point.ofJson?, Point.toJson, Json.ofMembers, Json.record?, Json.membersNamed]

theorem SeriesAnswer.ofJson?_toJson (answer : SeriesAnswer) :
    SeriesAnswer.ofJson? answer.toJson = some answer := by
  have points := Json.toList?_map Point.ofJson?_toJson answer.points
  simp [SeriesAnswer.ofJson?, SeriesAnswer.toJson, Json.ofMembers, Json.record?, Json.membersNamed, points]

namespace Answer

theorem totalOfJson?_toJson (value : Int64) : totalOfJson? (Answer.total value).toJson = some value := by
  simp [totalOfJson?, toJson, Json.ofMembers, Json.record?, Json.membersNamed]

theorem exists_data_of_series {json : Json} {answer : SeriesAnswer}
    (read : SeriesAnswer.ofJson? json = some answer) : ∃ start finish items,
      json.record? ["start", "end", "data"] 3 = some [start, finish, some (.array items)] := by
  obtain ⟨fields, isRecord, read⟩ := Option.bind_eq_some_iff.mp read
  split at read
  · next start finish data =>
      obtain ⟨_, _, read⟩ := Option.bind_eq_some_iff.mp read
      obtain ⟨_, _, read⟩ := Option.bind_eq_some_iff.mp read
      obtain ⟨_, _, read⟩ := Option.bind_eq_some_iff.mp read
      obtain ⟨_, _, read⟩ := Option.bind_eq_some_iff.mp read
      obtain ⟨value, isValue, read⟩ := Option.bind_eq_some_iff.mp read
      obtain ⟨points, isPoints, _⟩ := Option.bind_eq_some_iff.mp read
      cases isValue
      cases value with
      | array items => exact ⟨start, finish, items, isRecord⟩
      | null | bool | number | string | object => cases isPoints
  · cases read

theorem exists_data_of_total {json : Json} {value : Int64}
    (read : totalOfJson? json = some value) :
    ∃ number, json.record? ["data"] 1 = some [some (.number number)] := by
  obtain ⟨fields, isRecord, read⟩ := Option.bind_eq_some_iff.mp read
  split at read
  · next data =>
      obtain ⟨held, isHeld, read⟩ := Option.bind_eq_some_iff.mp read
      cases isHeld
      cases held with
      | number number => exact ⟨number, isRecord⟩
      | null | bool | array | string | object => cases read
  · cases read

/-- What `data` holds tells a series from a total, and in an array the number of items does. -/
theorem not_total_of_series {json : Json} {answer : SeriesAnswer}
    (read : SeriesAnswer.ofJson? json = some answer) : totalOfJson? json = none := by
  obtain ⟨start, finish, items, isSeries⟩ := exists_data_of_series read
  by_contra given
  obtain ⟨value, isValue⟩ := Option.ne_none_iff_exists'.mp given
  obtain ⟨number, isTotal⟩ := exists_data_of_total isValue
  -- In an object both readings find `data` in the same member.
  cases json with
  | null | bool | number | string => cases isTotal
  | array =>
      have long := Json.length_of_record?_array isSeries
      have short := Json.length_of_record?_array isTotal
      simp at long short
      omega
  | object members =>
      cases Json.membersNamed_of_record? isSeries with
      | cons _ others =>
          cases others with
          | cons _ others =>
              cases others with
              | cons isArray _ =>
                  cases Json.membersNamed_of_record? isTotal with
                  | cons isNumber _ =>
                      rw [isArray] at isNumber
                      cases isNumber

/-! ## Reading what is written -/

theorem printable_toJson (answer : Answer) : Json.Printable answer.toJson := by
  have point (point : Point) : Json.Printable point.toJson := by
    apply Json.printable_ofMembers
    simp [Json.printable_ofInt64]
  cases answer with
  | total value =>
      apply Json.printable_ofMembers
      simp [Json.printable_ofInt64]
  | series answer =>
      have points : Json.Printable (.array (answer.points.map Point.toJson)) := by
        apply Json.Printable.array
        simp [point]
      apply Json.printable_ofMembers
      simp [Json.printable_ofInt64, points]

theorem isPlain_toJson (answer : Answer) : answer.toJson.isPlain = true := by
  have point (point : Point) : point.toJson.isPlain = true := by
    simp [Point.toJson, Json.ofMembers, Json.isPlain, Json.arePlainMembers, Json.isPlain_ofInt64]
  cases answer with
  | total value => simp [toJson, Json.ofMembers, Json.isPlain, Json.arePlainMembers, Json.isPlain_ofInt64]
  | series answer =>
      have points : Json.arePlainItems (answer.points.map Point.toJson) = true :=
        Json.arePlainItems_of_forall (by simp [point])
      simp [toJson, SeriesAnswer.toJson, Json.ofMembers, Json.isPlain, Json.arePlainMembers,
        Json.isPlain_ofInt64, points]

/-- A series nests its points in an array, a total nests nothing. -/
theorem depth_toJson_le (answer : Answer) : answer.toJson.depth ≤ 3 := by
  have point (point : Point) : point.toJson.depth ≤ 1 := by
    simp [Point.toJson, Json.ofMembers, Json.depth, Json.depthOfMembers, Json.ofInt64, Json.ofInt]
  cases answer with
  | total value =>
      simp [toJson, Json.ofMembers, Json.depth, Json.depthOfMembers, Json.ofInt64, Json.ofInt]
  | series answer =>
      have points : Json.depthOfItems (answer.points.map Point.toJson) ≤ 1 :=
        Json.depthOfItems_le (by simp [point])
      simp [toJson, SeriesAnswer.toJson, Json.ofMembers, Json.depth, Json.depthOfMembers, Json.ofInt64,
        Json.ofInt]
      omega

theorem ofJsonAt?_toJson {outer : Nat} (shallow : outer + 3 ≤ depthLimit) (answer : Answer) :
    ofJsonAt? outer answer.toJson = some answer := by
  have depth := depth_toJson_le answer
  rw [ofJsonAt?, if_neg (by simp [isPlain_toJson]; omega)]
  cases answer with
  | series answer => rw [toJson, SeriesAnswer.ofJson?_toJson]
  | total value =>
      have noSeries : SeriesAnswer.ofJson? (Answer.total value).toJson = none := by
        by_contra given
        obtain ⟨answer, isSeries⟩ := Option.ne_none_iff_exists'.mp given
        have noTotal := not_total_of_series isSeries
        rw [totalOfJson?_toJson] at noTotal
        cases noTotal
      rw [noSeries, totalOfJson?_toJson]
      rfl

/-! ## The order of the two kinds -/

/-- The readers of the two kinds of answers. -/
def alternatives : List (Json → Option Answer) :=
  [fun json => (SeriesAnswer.ofJson? json).map .series, fun json => (totalOfJson? json).map .total]

/-- Two readers of which one fails wherever the other does not give the same in both orders. -/
theorem findSome?_of_perm {Item Value : Type} {first second : Item → Option Value} {item : Item}
    (never : first item = none ∨ second item = none) {order : List (Item → Option Value)}
    (same : order.Perm [first, second]) :
    order.findSome? (· item) = (first item).or (second item) := by
  have inOrder : order = [first, second] ∨ order = [second, first] := by
    match order, same.length_eq with
    | [one, other], _ =>
        have member : one ∈ [first, second] := same.subset List.mem_cons_self
        rcases List.mem_pair.mp member with rfl | rfl
        · have rest := List.perm_singleton.mp (List.Perm.cons_inv same)
          exact .inl (by rw [rest])
        · have swapped := same.trans (List.Perm.swap one first [])
          have rest := List.perm_singleton.mp (List.Perm.cons_inv swapped)
          exact .inr (by rw [rest])
  rcases inOrder with rfl | rfl
  · simp only [List.findSome?_cons, List.findSome?_nil]
    cases first item <;> cases second item <;> rfl
  · simp only [List.findSome?_cons, List.findSome?_nil]
    rcases never with noFirst | noSecond
    · rw [noFirst]
      cases second item <;> rfl
    · rw [noSecond]
      cases first item <;> rfl

/-- Whatever the order in which the two kinds are tried, the same answer is read. -/
theorem ofJsonAt?_eq_findSome? {order : List (Json → Option Answer)} (same : order.Perm alternatives)
    (outer : Nat) (json : Json) : ofJsonAt? outer json =
      if depthLimit < outer + json.depth ∨ !json.isPlain then none else order.findSome? (· json) := by
  have never : (SeriesAnswer.ofJson? json).map Answer.series = none ∨
      (totalOfJson? json).map Answer.total = none := by
    cases read : SeriesAnswer.ofJson? json with
    | none => exact .inl rfl
    | some answer =>
        rw [not_total_of_series read]
        exact .inr rfl
  rw [findSome?_of_perm never same, ofJsonAt?]
  cases SeriesAnswer.ofJson? json <;> rfl

end Answer

namespace Batch.Envelope

theorem printable_toJson (envelope : Envelope) : Json.Printable envelope.toJson := by
  obtain ⟨path, result, error⟩ := envelope
  apply Json.printable_ofMembers
  have isPath : Json.Printable (Json.ofText path) := .text path
  have isResult : Json.Printable ((result.map Answer.toJson).getD .null) := by
    cases result with
    | none => exact .null
    | some answer => exact answer.printable_toJson
  have isError : Json.Printable (Json.ofText? error) := by
    cases error with
    | none => exact .null
    | some words => exact .text words
  simp [isPath, isResult, isError]

theorem toOption?_result (result : Option Answer) :
    Json.toOption? (Answer.ofJsonAt? 1) ((result.map Answer.toJson).getD .null) = some result := by
  cases result with
  | none => rfl
  | some answer =>
      have read := Answer.ofJsonAt?_toJson (show 1 + 3 ≤ Answer.depthLimit by decide) answer
      cases answer <;> exact congrArg (Option.map some) read

theorem toOption?_error (error : Option String) :
    Json.toOption? Json.toText? (Json.ofText? error) = some error := by
  cases error <;> rfl

theorem ofJson?_toJson (envelope : Envelope) : Envelope.ofJson? envelope.toJson = some envelope := by
  simp [Envelope.ofJson?, Envelope.toJson, Json.ofMembers, Json.record?, Json.membersNamed,
    Json.orDefault, toOption?_result, toOption?_error]

end Batch.Envelope

/-- Answers and envelopes are read back from the text that is written for them, and no value is an
answer of both kinds, so that the order in which the kinds are tried decides nothing. -/
theorem read_written :
    (∀ answer : Answer,
      (Json.readBytes? (Utf8.encode answer.toJson.print)).bind Answer.ofJson? = some answer) ∧
    (∀ envelope : Envelope,
      (Json.readBytes? (Utf8.encode envelope.toJson.print)).bind Envelope.ofJson? = some envelope) ∧
    (∀ json, SeriesAnswer.ofJson? json = none ∨ Answer.totalOfJson? json = none) ∧
    ∀ order : List (Json → Option Answer), order.Perm Answer.alternatives → ∀ outer json,
      Answer.ofJsonAt? outer json =
        if Answer.depthLimit < outer + json.depth ∨ !json.isPlain then none
        else order.findSome? (· json) := by
  refine ⟨fun answer => ?_, fun envelope => ?_, fun json => ?_, fun order same outer json => ?_⟩
  · rw [Json.readBytes?_print answer.printable_toJson]
    exact Answer.ofJsonAt?_toJson (by decide) answer
  · rw [Json.readBytes?_print envelope.printable_toJson]
    exact envelope.ofJson?_toJson
  · cases read : SeriesAnswer.ofJson? json with
    | none => exact .inl rfl
    | some answer => exact .inr (Answer.not_total_of_series read)
  · exact Answer.ofJsonAt?_eq_findSome? same outer json

end SeriesQuery
