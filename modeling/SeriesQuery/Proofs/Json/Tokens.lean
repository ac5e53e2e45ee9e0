import SeriesQuery.Json.Reader

set_option autoImplicit false

/-!
# The tokens of a value

A value has one list of tokens, with commas between the items of an array and between the members of
an object. The reader's state stands for the tokens that it has taken, so it accepts a list of tokens
if and only if it is that of a value, and reads that value.
-/

namespace SeriesQuery.Json

mutual

def toTokens : Json → List Token
  | .null => [.null]
  | .bool value => [.bool value]
  | .number written => [.number written]
  | .string content => [.string content]
  | .array items => .openArray :: [Token.comma].intercalate (itemTokens items) ++ [.closeArray]
  | .object members =>
    .openObject :: [Token.comma].intercalate (memberTokens members) ++ [.closeObject]

def itemTokens : List Json → List (List Token)
  | [] => []
  | item :: rest => toTokens item :: itemTokens rest

def memberTokens : List (Option String × Json) → List (List Token)
  | [] => []
  | (key, value) :: rest => (.string key :: .colon :: toTokens value) :: memberTokens rest

end

theorem itemTokens_eq_map (items : List Json) : itemTokens items = items.map toTokens := by
  induction items with
  | nil => rfl
  | cons item rest ih => rw [itemTokens, ih, List.map_cons]

theorem memberTokens_eq_map (members : List (Option String × Json)) :
    memberTokens members =
      members.map fun (key, value) => .string key :: .colon :: toTokens value := by
  induction members with
  | nil => rfl
  | cons member rest ih => rw [memberTokens, ih, List.map_cons]

/-! ## Pieces with a mark between them -/

section

variable {Item : Type} (mark : Item)

theorem intercalate_cons (piece : List Item) (pieces : List (List Item)) :
    [mark].intercalate (piece :: pieces) = piece ++ pieces.flatMap (mark :: ·) := by
  induction pieces generalizing piece with
  | nil => simp [List.intercalate]
  | cons next rest ih =>
      have split : [mark].intercalate (piece :: next :: rest) =
          piece ++ mark :: [mark].intercalate (next :: rest) := by
        simp [List.intercalate]
      rw [split, ih, List.flatMap_cons, List.cons_append]

theorem intercalate_append_singleton (pieces : List (List Item)) (last : List Item) :
    [mark].intercalate (pieces ++ [last]) = pieces.flatMap (· ++ [mark]) ++ last := by
  induction pieces with
  | nil => simp [List.intercalate]
  | cons piece rest ih =>
      have split : [mark].intercalate (piece :: (rest ++ [last])) =
          piece ++ [mark] ++ [mark].intercalate (rest ++ [last]) := by
        cases rest <;> simp [List.intercalate]
      rw [List.cons_append, split, ih, List.flatMap_cons]
      simp only [List.append_assoc]

end

theorem toTokens_array_cons (item : Json) (items : List Json) :
    toTokens (.array (item :: items)) = .openArray ::
      (item.toTokens ++ ((itemTokens items).flatMap (.comma :: ·) ++ [.closeArray])) := by
  rw [toTokens, itemTokens, intercalate_cons, List.cons_append, List.append_assoc]

theorem toTokens_object_cons (key : Option String) (value : Json)
    (members : List (Option String × Json)) :
    toTokens (.object ((key, value) :: members)) = .openObject :: .string key :: .colon ::
      (value.toTokens ++ ((memberTokens members).flatMap (.comma :: ·) ++ [.closeObject])) := by
  rw [toTokens, memberTokens, intercalate_cons, List.cons_append, List.append_assoc]
  rfl

/-! ## What the reader has taken -/

/-- The tokens of the items of an array that is still open, each with its comma. -/
def openItems (items : List Json) : List Token :=
  .openArray :: (itemTokens items.reverse).flatMap (· ++ [.comma])

def openMembers (members : List (Option String × Json)) : List Token :=
  .openObject :: (memberTokens members.reverse).flatMap (· ++ [.comma])

def Frame.taken : Frame → List Token
  | .array items => openItems items
  | .member members key => openMembers members ++ [.string key, .colon]

def Mode.taken : Mode → List Token
  | .value => []
  | .firstItem => [.openArray]
  | .firstKey => [.openObject]
  | .key members => openMembers members
  | .colon members name => openMembers members ++ [.string name]
  | .after last => toTokens last

def framesTaken : List Frame → List Token
  | [] => []
  | frame :: outer => framesTaken outer ++ frame.taken

/-- The tokens that lead to a state. -/
def State.taken (state : State) : List Token :=
  framesTaken state.frames ++ state.mode.taken

theorem openItems_cons (value : Json) (items : List Json) :
    openItems (value :: items) = openItems items ++ toTokens value ++ [.comma] := by
  simp [openItems, itemTokens_eq_map]

theorem openMembers_cons (key : Option String) (value : Json)
    (members : List (Option String × Json)) :
    openMembers ((key, value) :: members) =
      openMembers members ++ [.string key, .colon] ++ toTokens value ++ [.comma] := by
  simp [openMembers, memberTokens_eq_map]

theorem toTokens_array_reverse (value : Json) (items : List Json) :
    toTokens (.array (value :: items).reverse) =
      openItems items ++ toTokens value ++ [.closeArray] := by
  rw [toTokens, List.reverse_cons, itemTokens_eq_map, List.map_append, List.map_singleton,
    intercalate_append_singleton, openItems, itemTokens_eq_map]
  rfl

theorem toTokens_object_reverse (key : Option String) (value : Json)
    (members : List (Option String × Json)) :
    toTokens (.object ((key, value) :: members).reverse) =
      openMembers members ++ [.string key, .colon] ++ toTokens value ++ [.closeObject] := by
  rw [toTokens, List.reverse_cons, memberTokens_eq_map, List.map_append, List.map_singleton,
    intercalate_append_singleton, openMembers, memberTokens_eq_map]
  simp

theorem begin_taken {frames : List Frame} {first : Token} {next : State}
    (begun : State.begin frames first = some next) : next.taken = framesTaken frames ++ [first] := by
  cases first with
  | closeArray | closeObject | comma | colon => cases begun
  | openArray | openObject | null | bool | number | string =>
      cases begun
      rfl

theorem afterValue_taken {frames : List Frame} {value : Json} {token : Token} {next : State}
    (moved : State.afterValue frames value token = some next) :
    next.taken = framesTaken frames ++ toTokens value ++ [token] := by
  simp only [State.afterValue] at moved
  split at moved
  · cases moved
    simp [State.taken, framesTaken, Frame.taken, Mode.taken, openItems_cons]
  · cases moved
    simp only [State.taken, framesTaken, Frame.taken, Mode.taken, toTokens_array_reverse,
      List.append_assoc]
  · cases moved
    simp [State.taken, framesTaken, Frame.taken, Mode.taken, openMembers_cons]
  · cases moved
    simp only [State.taken, framesTaken, Frame.taken, Mode.taken, toTokens_object_reverse,
      List.append_assoc]
  · cases moved

theorem step_firstItem (frames : List Frame) {token : Token} (other : token ≠ .closeArray) :
    State.step ⟨frames, .firstItem⟩ token = State.begin (.array [] :: frames) token := by
  cases token with
  | closeArray => exact absurd rfl other
  | openArray | openObject | closeObject | comma | colon | null | bool | number | string => rfl

/-- Each step adds its token to those that were taken. -/
theorem step_taken {state next : State} {token : Token} (moved : state.step token = some next) :
    next.taken = state.taken ++ [token] := by
  obtain ⟨frames, mode⟩ := state
  cases mode with
  | value => simpa [State.taken, Mode.taken] using begin_taken moved
  | firstItem =>
      -- Any other token than the end of the array begins a value, so it is taken as in `value`.
      by_cases closes : token = .closeArray
      · subst closes
        cases moved
        simp [State.taken, Mode.taken, toTokens, itemTokens, List.intercalate]
      · rw [step_firstItem frames closes] at moved
        rw [begin_taken moved]
        simp [State.taken, Mode.taken, framesTaken, Frame.taken, openItems, itemTokens]
  | firstKey =>
      cases token with
      | closeObject =>
          cases moved
          simp [State.taken, Mode.taken, toTokens, memberTokens, List.intercalate]
      | string key =>
          cases moved
          simp [State.taken, Mode.taken, openMembers, memberTokens]
      | openArray | closeArray | openObject | comma | colon | null | bool | number => cases moved
  | key members =>
      cases token with
      | string key =>
          cases moved
          simp [State.taken, Mode.taken]
      | openArray | closeArray | openObject | closeObject | comma | colon | null | bool | number =>
          cases moved
  | colon members key =>
      cases token with
      | colon =>
          cases moved
          simp [State.taken, Mode.taken, framesTaken, Frame.taken]
      | openArray | closeArray | openObject | closeObject | comma | null | bool | number | string =>
          cases moved
  | after value => exact afterValue_taken moved

theorem run_taken {state last : State} {tokens : List Token}
    (moved : state.run tokens = some last) : last.taken = state.taken ++ tokens := by
  induction tokens generalizing state with
  | nil =>
      cases moved
      rw [List.append_nil]
  | cons token rest ih =>
      simp only [State.run] at moved
      split at moved
      · next next stepped =>
          rw [ih moved, step_taken stepped, List.append_assoc, List.singleton_append]
      · cases moved

/-! ## Reading the tokens of a value -/

theorem run_cons_of_step {state next : State} {token : Token} (moved : state.step token = some next)
    (rest : List Token) : state.run (token :: rest) = next.run rest := by
  rw [State.run, moved]

/-- The first item of an array starts like any value. -/
theorem run_firstItem (frames : List Frame) (item : Json) (rest : List Token) :
    State.run ⟨frames, .firstItem⟩ (item.toTokens ++ rest) =
      State.run ⟨.array [] :: frames, .value⟩ (item.toTokens ++ rest) := by
  cases item <;> rfl

mutual

/-- The tokens of a value take the reader past it, whatever is open and whatever follows. -/
theorem run_toTokens (frames : List Frame) (rest : List Token) : (json : Json) →
    State.run ⟨frames, .value⟩ (json.toTokens ++ rest) = State.run ⟨frames, .after json⟩ rest
  | .null | .bool _ | .number _ | .string _ | .array [] | .object [] => rfl
  | .array (item :: items) => by
      rw [toTokens_array_cons, List.cons_append, List.append_assoc, List.append_assoc,
        List.singleton_append, run_cons_of_step rfl, run_firstItem, run_toTokens _ _ item]
      exact run_moreItems frames rest [] item items
  | .object ((key, value) :: members) => by
      rw [toTokens_object_cons, List.cons_append, List.cons_append, List.cons_append,
        List.append_assoc, List.append_assoc, List.singleton_append, run_cons_of_step rfl,
        run_cons_of_step rfl, run_cons_of_step rfl, run_toTokens _ _ value]
      exact run_moreMembers frames rest [] key value members

/-- The items of an array after one of them, and its end. -/
theorem run_moreItems (frames : List Frame) (rest : List Token) (done : List Json) (value : Json) :
    (items : List Json) →
    State.run ⟨.array done :: frames, .after value⟩
        ((itemTokens items).flatMap (.comma :: ·) ++ .closeArray :: rest) =
      State.run ⟨frames, .after (.array ((value :: done).reverse ++ items))⟩ rest
  | [] => by
      rw [itemTokens, List.flatMap_nil, List.nil_append, run_cons_of_step rfl, List.append_nil]
  | item :: items => by
      have whole : (itemTokens (item :: items)).flatMap (.comma :: ·) ++ .closeArray :: rest =
          .comma :: (item.toTokens ++
            ((itemTokens items).flatMap (.comma :: ·) ++ .closeArray :: rest)) := by
        simp [itemTokens]
      rw [whole, run_cons_of_step rfl, run_toTokens _ _ item,
        run_moreItems frames rest (value :: done) item items]
      simp

theorem run_moreMembers (frames : List Frame) (rest : List Token)
    (done : List (Option String × Json)) (key : Option String) (value : Json) :
    (members : List (Option String × Json)) →
    State.run ⟨.member done key :: frames, .after value⟩
        ((memberTokens members).flatMap (.comma :: ·) ++ .closeObject :: rest) =
      State.run ⟨frames, .after (.object (((key, value) :: done).reverse ++ members))⟩ rest
  | [] => by
      rw [memberTokens, List.flatMap_nil, List.nil_append, run_cons_of_step rfl, List.append_nil]
  | (name, item) :: members => by
      have whole : (memberTokens ((name, item) :: members)).flatMap (.comma :: ·) ++
            .closeObject :: rest =
          .comma :: .string name :: .colon :: (item.toTokens ++
            ((memberTokens members).flatMap (.comma :: ·) ++ .closeObject :: rest)) := by
        simp [memberTokens]
      rw [whole, run_cons_of_step rfl, run_cons_of_step rfl, run_cons_of_step rfl,
        run_toTokens _ _ item, run_moreMembers frames rest ((key, value) :: done) name item members]
      simp

end

/-- The reader accepts the tokens of values only, and reads the value that they are of. -/
theorem ofTokens?_eq_some_iff {tokens : List Token} {json : Json} :
    ofTokens? tokens = some json ↔ tokens = json.toTokens := by
  constructor
  · intro given
    simp only [ofTokens?] at given
    split at given
    · next value ended =>
        cases given
        exact (run_taken ended).symm
    · cases given
  · rintro rfl
    have ended := run_toTokens [] [] json
    rw [List.append_nil] at ended
    rw [ofTokens?, ended]
    rfl

end SeriesQuery.Json
