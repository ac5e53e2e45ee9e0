import Mathlib.Control.Monad.Basic
import SeriesQuery.Batch.Handler
import SeriesQuery.Proofs.Query.Parameters
import SeriesQuery.Proofs.Text.Form

set_option autoImplicit false

/-!
# Written forms of a metrics URI

A path of segments and a list of pairs are written as a URI in many ways. All of them are read as
these segments and pairs, so that a request depends on them only, apart from the URI that it shows as
given. A path with a piece that is no segment is refused whatever else is written.
-/

namespace SeriesQuery.Query

open SeriesQuery.Text SeriesQuery.Batch SeriesQuery.Table

/-! ## Written forms -/

/-- The characters that may stand for themselves in a segment. -/
def PathPlain (c : Char) : Prop :=
  c ∉ ['/', '?', '#', '%'] ∧ isBlank c = false

instance (c : Char) : Decidable (PathPlain c) :=
  inferInstanceAs (Decidable (_ ∧ _))

/-- The texts that a path can hold as segments. -/
def IsSegment (segment : String) : Prop :=
  segment ≠ "" ∧ segment ≠ "." ∧ segment ≠ ".."

instance (segment : String) : Decidable (IsSegment segment) :=
  inferInstanceAs (Decidable (_ ∧ _))

def SegmentForm (segment : String) (written : List Char) : Prop :=
  Percent.Writes PathPlain segment.toList written

/-- A path in written form: slashes between its segments, and any number of them around. -/
abbrev PathForm : List String → List Char → Prop :=
  Joined '/' SegmentForm

inductive QueryForm : List (List Char × List Char) → List Char → Prop where
  | absent : QueryForm [] []
  | given {pairs : List (List Char × List Char)} {written : List Char} :
      Form.Pairs pairs written → QueryForm pairs ('?' :: written)

inductive FragmentForm : List Char → Prop where
  | absent : FragmentForm []
  | given {tail : List Char} : FragmentForm ('#' :: tail)

inductive UriForm (path : List String) (pairs : List (List Char × List Char)) :
    List Char → Prop where
  | intro {before after writtenPath writtenQuery fragment : List Char} :
      (∀ c ∈ before, isBlank c = true) → PathForm path writtenPath →
      QueryForm pairs writtenQuery → FragmentForm fragment →
      (∀ c ∈ after, isBlank c = true) →
      UriForm path pairs (before ++ (writtenPath ++ writtenQuery ++ fragment) ++ after)

/-- A piece of a path that is no segment: it decodes to one dot or two, or to bytes that are not
UTF-8. -/
inductive Forbidden (raw : List Char) : Prop where
  | dot : Percent.decode raw = Utf8.encode ['.'] → Forbidden raw
  | dots : Percent.decode raw = Utf8.encode ['.', '.'] → Forbidden raw
  | notUtf8 : (∀ text, Percent.decode raw ≠ Utf8.encode text) → Forbidden raw

/-! ## Splitting a written form -/

theorem SegmentForm.clear {name : String} {written : List Char}
    (form : SegmentForm name written) : Clear ['/', '?', '#'] written := by
  refine Percent.Writes.forall (by decide) (by decide) (fun c plain => ?_) form
  obtain ⟨separates, visible⟩ := plain
  have fewer : ['/', '?', '#'] ⊆ ['/', '?', '#', '%'] := by decide
  exact ⟨fun member => separates (fewer member), visible⟩

theorem PathForm.clear {path : List String} {written : List Char} (form : PathForm path written) :
    Clear ['?', '#'] written :=
  Joined.clear (by decide) (by decide)
    (fun _ _ segment => segment.clear.of_subset (by decide)) form

theorem QueryForm.clear {pairs : List (List Char × List Char)} {written : List Char}
    (form : QueryForm pairs written) : Clear ['#'] written := by
  cases form with
  | absent => exact clear_nil _
  | given form => exact (Form.Pairs.clear form).cons (by decide) (by decide)

theorem QueryForm.cut_eq {pairs : List (List Char × List Char)} {path query : List Char}
    (form : QueryForm pairs query) (absent : '?' ∉ path) :
    ∃ found, cut '?' (path ++ query) = (path, found) ∧ Form.pairs (found.getD []) = pairs := by
  cases form with
  | absent =>
      rw [List.append_nil]
      exact ⟨none, cut_of_not_mem absent, rfl⟩
  | given form => exact ⟨_, cut_append_cons absent _, Form.pairs_eq form⟩

/-- A fragment and the blanks at the end of a URI are cut off. -/
theorem FragmentForm.cut_eq {text fragment : List Char} (form : FragmentForm fragment)
    (clear : Clear ['#'] text) : (cut '#' (trimEnd (text ++ fragment))).1 = text := by
  have absent : '#' ∉ text := clear.not_mem (by decide)
  cases form with
  | absent => rw [List.append_nil, trimEnd_eq_self clear.visible, cut_of_not_mem absent]
  | given => rw [trimEnd_append_cons text (by decide), cut_append_cons absent]

/-- A written form is split into a written form of the path and a query string with the pairs. -/
theorem UriForm.splitUri {path : List String} {pairs : List (List Char × List Char)}
    {uri : List Char} (form : UriForm path pairs uri) :
    PathForm path (splitUri uri).1 ∧ Form.pairs (splitUri uri).2 = pairs := by
  obtain @⟨before, after, writtenPath, writtenQuery, fragment, front, pathForm, queryForm,
    fragmentForm, back⟩ := form
  have clear : Clear ['#'] (writtenPath ++ writtenQuery) :=
    (pathForm.clear.of_subset (by decide)).append queryForm.clear
  -- Nothing of the URI is trimmed at its front, where a path, a query string or a fragment may start.
  have visible (c : Char) (first : (writtenPath ++ writtenQuery ++ fragment).head? = some c) :
      isBlank c = false := by
    rw [List.head?_append] at first
    cases found : (writtenPath ++ writtenQuery).head? with
    | some other =>
        rw [found] at first
        cases first
        exact clear.visible c (List.mem_of_head? found)
    | none =>
        rw [found] at first
        cases fragmentForm with
        | absent => cases first
        | given =>
            cases first
            decide
  have noQuery : '?' ∉ writtenPath := pathForm.clear.not_mem (by decide)
  obtain ⟨found, split, read⟩ := queryForm.cut_eq noQuery
  rw [Query.splitUri, trim_between front visible back, fragmentForm.cut_eq clear, split]
  exact ⟨pathForm, read⟩

/-! ## Reading segments -/

theorem segment_eq_ok_iff {raw : List Char} {name : String} :
    segment raw = .ok name ↔
      Percent.decode raw = Utf8.encode name.toList ∧ name ≠ "." ∧ name ≠ ".." := by
  rw [segment]
  split
  · next illFormed =>
      constructor
      · intro given
        cases given
      · intro given
        rw [Utf8.decode?_eq_some_iff.mpr given.1] at illFormed
        cases illFormed
  · next text decoded =>
      rw [Utf8.decode?_eq_some_iff.mp decoded, Utf8.encode_inj]
      split
      · next dots =>
          constructor
          · intro given
            cases given
          · intro given
            obtain ⟨rfl, noDot, noDots⟩ := given
            rcases dots with same | same
            · exact absurd (String.toList_inj.mp same) noDot
            · exact absurd (String.toList_inj.mp same) noDots
      · next noDots =>
          constructor
          · intro given
            cases given
            refine ⟨String.toList_ofList.symm, fun same => noDots (.inl ?_), fun same => noDots (.inr ?_)⟩
            · rw [← String.toList_ofList (l := text), same]
              rfl
            · rw [← String.toList_ofList (l := text), same]
              rfl
          · intro given
            rw [given.1, String.ofList_toList]

theorem SegmentForm.segment_eq {name : String} {written : List Char}
    (form : SegmentForm name written) (isSegment : IsSegment name) : segment written = .ok name :=
  segment_eq_ok_iff.mpr ⟨form.decode_eq (by decide), isSegment.2⟩

theorem mapM_eq_ok_iff {Raw Name : Type} {read : Raw → Except Refusal Name} {raws : List Raw}
    {names : List Name} :
    raws.mapM read = .ok names ↔ List.Forall₂ (fun raw name => read raw = .ok name) raws names := by
  induction raws generalizing names with
  | nil =>
      constructor
      · intro none
        cases none
        exact .nil
      · intro none
        cases none
        rfl
  | cons raw raws ih =>
      rw [List.mapM_cons, bind_eq_ok]
      constructor
      · intro given
        obtain ⟨name, first, others⟩ := given
        obtain ⟨rest, read, made⟩ := bind_eq_ok.mp others
        cases made
        exact .cons first (ih.mp read)
      · intro given
        cases given with
        | cons first others => exact ⟨_, first, bind_eq_ok.mpr ⟨_, ih.mpr others, rfl⟩⟩

theorem PathForm.segments_eq {path : List String} {written : List Char}
    (form : PathForm path written) (areSegments : ∀ name ∈ path, IsSegment name) :
    segments written = .ok path := by
  have forms : List.Forall₂ SegmentForm path (words '/' written) := by
    refine Joined.words form (fun name member word form => ?_) (fun _ _ _ form member => ?_)
    · refine Percent.Writes.ne_nil form fun empty => (areSegments name member).1 ?_
      exact String.toList_inj.mp empty
    · exact form.clear.not_mem (by decide) member
  have read := (List.forall₂_and_left path (words '/' written)).mpr ⟨areSegments, forms⟩
  refine mapM_eq_ok_iff.mpr (read.imp ?_).flip
  intro name word given
  exact given.2.segment_eq given.1

/-! ## Refusals -/

theorem Forbidden.ne_nil {raw : List Char} (forbidden : Forbidden raw) : raw ≠ [] := by
  rintro rfl
  cases forbidden with
  | dot same => exact absurd same (by decide)
  | dots same => exact absurd same (by decide)
  | notUtf8 others => exact others [] rfl

theorem Forbidden.segment_ne_ok {raw : List Char} (forbidden : Forbidden raw) (name : String) :
    segment raw ≠ .ok name := by
  intro given
  obtain ⟨bytes, noDot, noDots⟩ := segment_eq_ok_iff.mp given
  cases forbidden with
  | dot same => exact noDot (String.toList_inj.mp (Utf8.encode_inj.mp (bytes.symm.trans same)))
  | dots same => exact noDots (String.toList_inj.mp (Utf8.encode_inj.mp (bytes.symm.trans same)))
  | notUtf8 others => exact others name.toList bytes

theorem Forbidden.exists_refusal {path raw : List Char} (forbidden : Forbidden raw)
    (member : raw ∈ pieces '/' path) : ∃ refusal, segments path = .error refusal := by
  cases read : segments path with
  | error refusal => exact ⟨refusal, rfl⟩
  | ok names =>
      have word : raw ∈ words '/' path :=
        List.mem_filter.mpr ⟨member, by simpa using forbidden.ne_nil⟩
      have read : (words '/' path).mapM segment = .ok names := read
      have each := mapM_eq_ok_iff.mp read
      obtain ⟨place, inside, rfl⟩ := List.mem_iff_getElem.mp word
      have given := each.get inside (each.length_eq ▸ inside)
      exact absurd given (forbidden.segment_ne_ok _)

/-! ## Reading a URI -/

/-- A URI in written form is read as the segments and the pairs that were written, so its request
depends on these only, apart from the URI itself. A URI with a piece of a path that is no segment is
refused at every clock, and a handler answers with this refusal. -/
theorem read_of_uriForm :
    (∀ (path : List String) (pairs : List (List Char × List Char)) (uri : String),
      (∀ name ∈ path, IsSegment name) → UriForm path pairs uri.toList →
      segments (splitUri uri.toList).1 = .ok path ∧
      Form.pairs (splitUri uri.toList).2 = pairs ∧
      ∀ (reader : Reader) (now : Int64),
        reader.read now uri = (select path >>= fun selection =>
          Parameters.ofPairs (reader.clock now) pairs >>= fun parameters =>
            .ok (.make uri selection parameters))) ∧
    ∀ (uri : String) (raw : List Char),
      raw ∈ pieces '/' (splitUri uri.toList).1 → Forbidden raw →
      ∃ refusal : Refusal,
        (∀ (reader : Reader) (now : Int64), reader.read now uri = .error refusal) ∧
        ∀ (handler : Handler) (backend : Backend) (now : Int64) (engine : Engine),
          handler.query backend now engine uri =
            (.error (.malformedQuery uri refusal.reason), engine) := by
  constructor
  · intro path pairs uri areSegments form
    obtain ⟨pathForm, pairsRead⟩ := form.splitUri
    have segmentsRead := pathForm.segments_eq areSegments
    refine ⟨segmentsRead, pairsRead, ?_⟩
    intro reader now
    rw [read_eq_make, segmentsRead, Parameters.read, pairsRead]
    rfl
  · intro uri raw member forbidden
    obtain ⟨refusal, refused⟩ := forbidden.exists_refusal member
    have read (reader : Reader) (now : Int64) : reader.read now uri = .error refusal := by
      rw [read_eq_make, refused]
      rfl
    refine ⟨refusal, read, ?_⟩
    intro handler backend now engine
    simp only [Handler.query, read, Error.ofRefusal]

theorem read_of_uriForm_shop :
    let path := ["collect", "read/s", "apps", "shop"]
    let pairs := [("count".toList, "5".toList), ("run_id".toList, "a b&c".toList)]
    let uri := "\u00a0/collect/read%2fs//apps/%73hop/?count=5&run_id=a+b%26c#top "
    let climbing := "collect/bytes/%2e%2E/apps?count=5"
    UriForm path pairs uri.toList ∧
      (Reader.mk 2 100).read 10002 uri =
        .ok ⟨uri, .timeSeries, some "shop", .named "read/s", none, some "a b&c", 9995, 10000, 5⟩ ∧
      Forbidden "%2e%2E".toList ∧
      ∃ refusal, (Reader.mk 2 100).read 10002 climbing = .error refusal := by
  intro path pairs uri climbing
  have plain (name : String) (all : name.toList.all (PathPlain ·) = true) :
      SegmentForm name name.toList := Percent.writes_plain (by simpa using all)
  have slash : SegmentForm "read/s" "read%2fs".toList := by
    have escapes : Percent.Escapes (Utf8.encode ['/']) "%2f".toList :=
      @Percent.Escapes.cons 0x2F _ _ _ _ (.inl rfl) (.inr rfl) .nil
    have last : Percent.Writes PathPlain ['s'] ['s'] := .plain (by decide) .nil
    exact (plain "read" rfl).append (.escaped escapes last)
  have shop : SegmentForm "shop" "%73hop".toList := by
    have escapes : Percent.Escapes (Utf8.encode ['s']) "%73".toList :=
      @Percent.Escapes.cons 0x73 _ _ _ _ (.inl rfl) (.inl rfl) .nil
    exact .escaped escapes (plain "hop" rfl)
  have written : PathForm path "/collect/read%2fs//apps/%73hop/".toList := by
    refine .mark (.item (plain "collect" rfl) (.inr ⟨_, rfl⟩) (.mark ?_))
    refine .item slash (.inr ⟨_, rfl⟩) (.mark (.mark ?_))
    refine .item (plain "apps" rfl) (.inr ⟨_, rfl⟩) (.mark ?_)
    exact .item shop (.inr ⟨_, rfl⟩) (.mark .nil)
  have form : UriForm path pairs
      ("\u00a0".toList ++ ("/collect/read%2fs//apps/%73hop/".toList ++
        '?' :: Form.encodePairs pairs ++ "#top".toList) ++ " ".toList) :=
    .intro (List.all_eq_true.mp rfl) written (.given (Form.pairs_encodePairs pairs)) .given
      (List.all_eq_true.mp rfl)
  have same : "\u00a0".toList ++ ("/collect/read%2fs//apps/%73hop/".toList ++
      '?' :: Form.encodePairs pairs ++ "#top".toList) ++ " ".toList = uri.toList := by
    decide +kernel
  rw [same] at form
  have dots : Forbidden "%2e%2E".toList := .dots (by decide)
  obtain ⟨accepted, refused⟩ := read_of_uriForm
  obtain ⟨_, _, read⟩ := accepted path pairs uri (by decide) form
  obtain ⟨refusal, climbs, _⟩ := refused climbing "%2e%2E".toList (by decide +kernel) dots
  refine ⟨form, ?_, dots, refusal, climbs _ _⟩
  rw [read]
  decide +kernel

end SeriesQuery.Query
