import SeriesQuery.Proofs.Batch.Finish

set_option autoImplicit false

/-!
# The answer of a batch

What a batch has to answer is told by what each of its URIs gets alone. A batch that is over answers
this, with what its items get.
-/

namespace SeriesQuery.Batch

open SeriesQuery.Query SeriesQuery.Table

/-- An envelope holds an outcome: either the answer or the words of the error. -/
inductive Envelope.Holds (uri : String) : Except Error Answer → Envelope → Prop where
  | result {answer : Answer} : Holds uri (.ok answer) ⟨uri, some answer, none⟩
  | error {error : Error} : Holds uri (.error error) ⟨uri, none, some error.message⟩

/-- There is one envelope for each URI, in order, and it holds what the URI gets alone. -/
structure Enveloped (alone : String → Except Error Answer) (uris : List String)
    (envelopes : List Envelope) : Prop where
  length : envelopes.length = uris.length
  holds : ∀ (place : Nat) (uri : String), uris[place]? = some uri →
    ∃ envelope : Envelope, envelopes[place]? = some envelope ∧ envelope.Holds uri (alone uri)

/-- The answer of a batch under a policy, told by what its URIs get alone. -/
inductive Answers (alone : String → Except Error Answer) (uris : List String) :
    Policy → Except Error (List Envelope) → Prop where
  | isolate {envelopes : List Envelope} : Enveloped alone uris envelopes →
      Answers alone uris .isolate (.ok envelopes)
  | complete {envelopes : List Envelope} : (∀ uri ∈ uris, ∃ answer, alone uri = .ok answer) →
      Enveloped alone uris envelopes → Answers alone uris .abort (.ok envelopes)
  | abort {before after : List String} {uri : String} {error : Error} :
      uris = before ++ uri :: after → (∀ earlier ∈ before, ∃ answer, alone earlier = .ok answer) →
      alone uri = .error error → Answers alone uris .abort (.error error)

theorem Envelope.holds_ofOutcome (uri : String) (outcome : Except Error Answer) :
    (ofOutcome uri outcome).Holds uri outcome := by
  cases outcome with
  | ok answer => exact .result
  | error error => exact .error

theorem enveloped_map (alone : String → Except Error Answer) (uris : List String) :
    Enveloped alone uris (uris.map fun uri => Envelope.ofOutcome uri (alone uri)) where
  length := List.length_map _
  holds place uri found :=
    ⟨_, by rw [List.getElem?_map, found]; rfl, Envelope.holds_ofOutcome uri (alone uri)⟩

/-! ## One URI -/

theorem Envelope.Holds.eq_ofOutcome {uri : String} {outcome : Except Error Answer}
    {envelope : Envelope} (holds : envelope.Holds uri outcome) :
    envelope = Envelope.ofOutcome uri outcome := by
  cases holds with
  | result => rfl
  | error => rfl

theorem Enveloped.eq_of_single {alone : String → Except Error Answer} {uri : String}
    {envelopes : List Envelope} (enveloped : Enveloped alone [uri] envelopes) :
    envelopes = [Envelope.ofOutcome uri (alone uri)] := by
  obtain ⟨envelope, rfl⟩ := List.length_eq_one_iff.mp enveloped.length
  obtain ⟨found, same, holds⟩ := enveloped.holds 0 uri rfl
  cases same
  rw [holds.eq_ofOutcome]

theorem Answers.eq_of_isolate {alone : String → Except Error Answer} {uri : String}
    {outcome : Except Error (List Envelope)} (answers : Answers alone [uri] .isolate outcome) :
    outcome = .ok [Envelope.ofOutcome uri (alone uri)] := by
  cases answers with
  | isolate enveloped => rw [enveloped.eq_of_single]

theorem Answers.eq_of_abort {alone : String → Except Error Answer} {uri : String}
    {outcome : Except Error (List Envelope)} (answers : Answers alone [uri] .abort outcome) :
    outcome = (alone uri).map fun answer => [Envelope.ofOutcome uri (.ok answer)] := by
  cases answers with
  | complete succeeded enveloped =>
      obtain ⟨answer, given⟩ := succeeded uri (List.mem_singleton_self uri)
      rw [enveloped.eq_of_single, given]
      rfl
  | @abort before after failing error split _ failed =>
      have member : failing ∈ [uri] := split ▸ List.mem_append_right before List.mem_cons_self
      rw [← List.mem_singleton.mp member, failed]
      rfl

/-! ## Putting the answer together -/

theorem exists_of_isOk {outcome : Except Error Answer} (succeeded : outcome.isOk = true) :
    ∃ answer, outcome = .ok answer := by
  cases outcome with
  | ok answer => exact ⟨answer, rfl⟩
  | error error => cases succeeded

namespace Handler

theorem envelopes_abort_of_ok {outcomes : List (String × Except Error Answer)}
    (succeeded : ∀ entry ∈ outcomes, entry.2.isOk = true) :
    envelopes .abort outcomes =
      .ok (outcomes.map fun entry => Envelope.ofOutcome entry.1 entry.2) := by
  induction outcomes with
  | nil => rfl
  | cons entry rest ih =>
      obtain ⟨uri, outcome⟩ := entry
      have tail := ih fun entry member => succeeded entry (List.mem_cons_of_mem _ member)
      simp only [envelopes] at tail ⊢
      cases outcome with
      | ok answer =>
          rw [List.mapM_cons, tail]
          rfl
      | error error => cases succeeded (uri, .error error) List.mem_cons_self

theorem envelopes_abort_of_error {before : List (String × Except Error Answer)}
    (succeeded : ∀ entry ∈ before, entry.2.isOk = true) (uri : String) (error : Error) :
    envelopes .abort (before ++ [(uri, .error error)]) = .error error := by
  induction before with
  | nil => rfl
  | cons entry rest ih =>
      obtain ⟨first, outcome⟩ := entry
      have tail := ih fun entry member => succeeded entry (List.mem_cons_of_mem _ member)
      simp only [envelopes] at tail ⊢
      cases outcome with
      | ok answer =>
          rw [List.cons_append, List.mapM_cons, tail]
          rfl
      | error error => cases succeeded (first, .error error) List.mem_cons_self

end Handler

namespace Run

variable {around : Surroundings} {uris : List String} {verdict : Except StorageError UInt32}
  {others : List Call} {run : Run}

theorem Sound.settled_uris (sound : run.Sound around uris verdict others)
    (windowEmpty : run.window = []) (noneLeft : run.pending = []) :
    run.settled.reverse.map (·.1) = uris := by
  have order := sound.order
  rwa [windowEmpty, noneLeft, List.map_nil, List.append_nil, List.append_nil] at order

theorem Sound.envelopes_eq (sound : run.Sound around uris verdict others)
    (windowEmpty : run.window = []) (noneLeft : run.pending = []) :
    run.settled.reverse.map (fun entry => Envelope.ofOutcome entry.1 entry.2) =
      uris.map fun uri => Envelope.ofOutcome uri (answerTo around verdict uri) := by
  rw [← sound.settled_uris windowEmpty noneLeft, List.map_map]
  refine List.map_congr_left fun entry member => ?_
  simp only [Function.comp_apply, sound.settled entry (List.mem_reverse.mp member)]

/-- Once an error has ended a batch, the last settled item failed and all before it succeeded. -/
theorem Sound.answers_of_aborted (sound : run.Sound around uris verdict others)
    (aborted : isAborted around.policy run.settled = true) :
    Answers (answerTo around verdict) uris around.policy
      (Handler.envelopes around.policy run.settled.reverse) := by
  have order := sound.order
  have earlierOk := sound.aborted
  have settledFits := sound.settled
  cases policy : around.policy with
  | isolate => simp [isAborted, policy] at aborted
  | abort =>
      rcases settled : run.settled with _ | ⟨⟨uri, error | answer⟩, earlier⟩
      · simp [isAborted, policy, settled] at aborted
      · rw [settled] at order earlierOk settledFits
        have succeeded : ∀ entry ∈ earlier, entry.2.isOk = true := earlierOk policy
        rw [List.reverse_cons, List.map_append, List.append_assoc, List.append_assoc] at order
        rw [List.reverse_cons, Handler.envelopes_abort_of_error
          fun entry member => succeeded entry (List.mem_reverse.mp member)]
        refine .abort order.symm ?_ (settledFits (uri, .error error) List.mem_cons_self).symm
        intro before member
        obtain ⟨entry, inside, rfl⟩ := List.mem_map.mp member
        have inside := List.mem_reverse.mp inside
        rw [← settledFits entry (List.mem_cons_of_mem _ inside)]
        exact exists_of_isOk (succeeded entry inside)
      · simp [isAborted, policy, settled] at aborted

theorem Sound.answers_of_complete (sound : run.Sound around uris verdict others)
    (running : isAborted around.policy run.settled = false) (windowEmpty : run.window = [])
    (noneLeft : run.pending = []) :
    Answers (answerTo around verdict) uris around.policy
      (Handler.envelopes around.policy run.settled.reverse) := by
  have same := sound.envelopes_eq windowEmpty noneLeft
  cases policy : around.policy with
  | isolate =>
      refine .isolate ?_
      rw [same]
      exact enveloped_map _ _
  | abort =>
      have succeeded := sound.succeeded policy running
      rw [Handler.envelopes_abort_of_ok fun entry member =>
        succeeded entry (List.mem_reverse.mp member), same]
      refine .complete ?_ (enveloped_map _ _)
      intro uri member
      rw [← sound.settled_uris windowEmpty noneLeft] at member
      obtain ⟨entry, inside, rfl⟩ := List.mem_map.mp member
      have inside := List.mem_reverse.mp inside
      rw [← sound.settled entry inside]
      exact exists_of_isOk (succeeded entry inside)

/-- A batch that is over answers what its URIs get. -/
theorem Sound.answers (sound : run.Sound around uris verdict others)
    (ended : run.IsOver around.policy) :
    Answers (answerTo around verdict) uris around.policy
      (Handler.envelopes around.policy run.settled.reverse) := by
  cases running : isAborted around.policy run.settled with
  | true => exact sound.answers_of_aborted running
  | false =>
      rcases ended with aborted | ⟨windowEmpty, noneLeft⟩
      · rw [running] at aborted
        cases aborted
      · exact sound.answers_of_complete running windowEmpty noneLeft

end Run

end SeriesQuery.Batch
