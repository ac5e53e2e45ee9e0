import SeriesQuery.Http.Service
import SeriesQuery.Proofs.Batch.Traces

set_option autoImplicit false

/-!
# Refused requests

A URI that cannot be read changes nothing, in whichever way it is run, and neither does a batch whose
envelope is refused. A batch in which errors stay with their items leaves behind what the batch of its
URIs that can be read leaves behind.
-/

namespace SeriesQuery

open SeriesQuery.Query SeriesQuery.Table

namespace Batch

namespace Handler

variable {handler : Handler} {backend : Backend} {now : Int64} {engine : Engine}
  {others : List Call}

theorem query_of_refused {uri : String} {refusal : Refusal}
    (refused : handler.reader.read now uri = .error refusal) (backend : Backend)
    (engine : Engine) :
    handler.query backend now engine uri = (.error (.ofRefusal uri refusal), engine) := by
  rw [query, refused]

theorem handleRequest_of_refused {contentType : Option String} {body : List UInt8} {error : Error}
    (refused : handler.decodeEnvelope contentType body = .error error) (backend : Backend)
    (now : Int64) (engine : Engine) :
    handler.handleRequest backend now engine contentType body = (.error error, engine) := by
  rw [handleRequest, refused]

theorem follows_shared (handler : Handler) (backend : Backend) (now : Int64) (engine : Engine)
    (others : List Call) (uris : List String) :
    (handler.shared engine others uris).run.Follows (handler.surroundings backend now) :=
  Run.start_forall (fun _ => trivial) _ _ uris

/-! ## What a batch leaves behind -/

/-- A batch can come to its end in a state, in whichever order the items and the calls of others take
their steps. -/
def CanEnd (handler : Handler) (backend : Backend) (now : Int64) (engine : Engine)
    (others : List Call) (uris : List String) (ended : Shared) : Prop :=
  ∃ turns : List Turn, (∀ turn ∈ turns, turn.Calm) ∧
    (handler.shared engine others uris).takeAll (handler.surroundings backend now)
      handler.parallelism turns = ended ∧ ended.run.IsOver handler.policy

theorem CanEnd.sameTrace {uris : List String} {whole rest : Shared}
    (ends : handler.CanEnd backend now engine others uris whole)
    (alsoEnds : handler.CanEnd backend now engine others (handler.reader.readable now uris) rest)
    (reached : Traffic.Reachable ⟨engine.tables, others⟩) (isolate : handler.policy = .isolate)
    (alike : (whole.others.map Call.standing).Perm (rest.others.map Call.standing)) :
    whole.run.engine.SameTrace rest.run.engine := by
  obtain ⟨turns, calm, rfl, ended⟩ := ends
  obtain ⟨alsoTurns, alsoCalm, rfl, alsoEnded⟩ := alsoEnds
  rw [isolate] at ended alsoEnded
  have consistent := reached.sound.consistent
  have start := handler.sound_shared consistent backend now uris
  have alsoStart := handler.sound_shared consistent backend now (handler.reader.readable now uris)
  have traced := (handler.traced_shared reached backend now uris).takeAll start calm
  have alsoTraced := (handler.traced_shared reached backend now _).takeAll alsoStart alsoCalm
  exact traced.sameTrace (start.takeAll calm) ended alsoTraced (alsoStart.takeAll alsoCalm)
    alsoEnded alike

/-- From every state that the tables can reach all batches can come to their end with the calls of
others at the same point. -/
theorem exists_canEnd (reached : Traffic.Reachable ⟨engine.tables, others⟩)
    (parallel : 1 ≤ handler.parallelism) (backend : Backend) (now : Int64) :
    ∃ calls : List Call, ∀ uris : List String, ∃ ended : Shared,
      handler.CanEnd backend now engine others uris ended ∧ ended.others = calls := by
  obtain ⟨events, calm, ends⟩ := exists_over reached parallel backend now
  refine ⟨((Traffic.mk engine.tables others).run events).calls, fun uris => ?_⟩
  obtain ⟨places, ended⟩ := ends uris
  refine ⟨_, ⟨_, Turn.calm_append calm places, rfl, ended⟩, ?_⟩
  rw [Shared.takeAll_append, Shared.takeAll_items_others, Shared.takeAll_outside]
  rfl

/-- The handler's own order of steps comes to the end of a batch, unless others have a construction in
flight. -/
theorem canEnd_handle (reached : Traffic.Reachable ⟨engine.tables, others⟩)
    (parallel : 1 ≤ handler.parallelism) (quiet : flights others engine.resolution = 0)
    (backend : Backend) (now : Int64) (uris : List String) :
    ∃ ended : Shared, handler.CanEnd backend now engine others uris ended ∧
      ended.others = others ∧ ended.run.engine = (handler.handle backend now engine uris).2 := by
  obtain ⟨places, ended, handled⟩ :=
    exists_places reached.sound.consistent parallel quiet backend now uris
  refine ⟨_, ⟨_, Turn.calm_items places, rfl, ended⟩, ?_, by rw [handled]⟩
  rw [Shared.takeAll_items_others]
  rfl

end Handler

end Batch

namespace Http

open SeriesQuery.Batch

variable {service : Service} {backend : Backend} {now : Int64}

/-- A response leaves the service as it is if what it answers with does. -/
theorem Service.respond_snd {request : Request} {resource : Route}
    (routed : Route.ofTarget? (.ofText request.target) = some resource)
    (unchanged : ∀ answer ∈ service.answer? backend now request resource, answer.2 = service) :
    (service.respond backend now request).2 = service := by
  simp only [respond, Service.route, routed]
  split
  · rfl
  · cases answered : service.answer? backend now request resource with
    | none => rfl
    | some answer => exact unchanged answer answered

theorem Service.respond_of_refused_uri {request : Request} {uri : String} {refusal : Refusal}
    (routed : Route.ofTarget? (.ofText request.target) = some (.single uri))
    (refused : service.handler.reader.read now uri = .error refusal) :
    (service.respond backend now request).2 = service := by
  have unchanged : (service.single backend now uri).2 = service := by
    rw [single, Handler.query_of_refused refused]
  refine respond_snd routed fun answer given => ?_
  cases method : request.method with
  | get | head =>
      simp only [answer?, method, get?, Option.map_some, Option.mem_some_iff] at given
      generalize service.single backend now uri = single at unchanged given
      rw [← given]
      exact unchanged
  | post | options | other =>
      simp [answer?, method] at given

theorem Service.respond_of_refused_envelope {request : Request} {error : Error}
    (routed : Route.ofTarget? (.ofText request.target) = some .batch)
    (refused : service.handler.decodeEnvelope request.contentType? request.body = .error error) :
    (service.respond backend now request).2 = service := by
  have unchanged : (service.batch backend now request).2 = service := by
    rw [batch, Handler.handleRequest_of_refused refused]
  refine respond_snd routed fun answer given => ?_
  cases method : request.method with
  | post =>
      simp only [answer?, method, Option.mem_some_iff] at given
      rw [← given]
      exact unchanged
  | get | head | options | other =>
      simp [answer?, method, get?] at given

/-- What is refused leaves no trace on a service, while others call on its tables. -/
structure Traceless (service : Service) (backend : Backend) (now : Int64) (others : List Call) :
    Prop where
  /-- A refused URI changes nothing when it is run alone, -/
  alone : ∀ uri refusal, service.handler.reader.read now uri = .error refusal →
    (service.handler.query backend now service.engine uri).2 = service.engine
  /-- in a batch, whichever steps were taken before, even if they changed which constructions fail, -/
  item : ∀ (uris : List String) (turns : List Turn) (place : Nat) (item : Item) (refusal : Refusal),
    let around := service.handler.surroundings backend now
    let run := ((service.handler.shared service.engine others uris).takeAll around
      service.handler.parallelism turns).run
    run.window[place]? = some item → service.handler.reader.read now item.uri = .error refusal →
      (run.step around service.handler.parallelism place).engine = run.engine
  /-- or when it is asked for below the API's path. -/
  requested : ∀ request uri refusal,
    Route.ofTarget? (.ofText request.target) = some (.single uri) →
    service.handler.reader.read now uri = .error refusal →
      (service.respond backend now request).2 = service
  /-- A batch whose envelope is refused runs no item and is not counted, -/
  envelope : ∀ contentType body error,
    service.handler.decodeEnvelope contentType body = .error error →
      service.handler.handleRequest backend now service.engine contentType body =
        (.error error, service.engine)
  /-- also when it is posted. -/
  posted : ∀ request error, Route.ofTarget? (.ofText request.target) = some .batch →
    service.handler.decodeEnvelope request.contentType? request.body = .error error →
      (service.respond backend now request).2 = service
  /-- However a batch and the batch of its readable URIs come to their ends, with the calls of others
  at the same point, they leave the same behind. -/
  batch : service.handler.policy = .isolate → ∀ uris whole rest,
    service.handler.CanEnd backend now service.engine others uris whole →
    service.handler.CanEnd backend now service.engine others
      (service.handler.reader.readable now uris) rest →
    (whole.others.map Call.standing).Perm (rest.others.map Call.standing) →
      whole.run.engine.SameTrace rest.run.engine
  /-- All batches can come to such ends. -/
  ends : 1 ≤ service.handler.parallelism → ∃ calls, ∀ uris, ∃ ended : Shared,
    service.handler.CanEnd backend now service.engine others uris ended ∧ ended.others = calls
  /-- What the handler takes them to are such ends. -/
  handled : service.handler.policy = .isolate → 1 ≤ service.handler.parallelism →
    flights others service.engine.resolution = 0 → ∀ uris,
      (service.handler.handle backend now service.engine uris).2.SameTrace
        (service.handler.handle backend now service.engine
          (service.handler.reader.readable now uris)).2

/-- In every state that the tables of a service can reach, what is refused leaves no trace. -/
theorem traceless_of_reachable {service : Service} {others : List Call}
    (reached : Traffic.Reachable ⟨service.engine.tables, others⟩) (backend : Backend)
    (now : Int64) : Traceless service backend now others where
  alone uri refusal refused := by rw [Handler.query_of_refused refused]
  item := by
    intro uris turns place item refusal around run found refused
    have start := service.handler.follows_shared backend now service.engine others uris
    exact (Shared.follows_takeAll start turns).step_of_refused _ found refused
  requested request uri refusal routed refused := Service.respond_of_refused_uri routed refused
  envelope contentType body error refused := Handler.handleRequest_of_refused refused _ _ _
  posted request error routed refused := Service.respond_of_refused_envelope routed refused
  batch isolate uris whole rest ended alsoEnded alike :=
    ended.sameTrace alsoEnded reached isolate alike
  ends parallel := Handler.exists_canEnd reached parallel backend now
  handled isolate parallel quiet uris := by
    obtain ⟨whole, ended, others, left⟩ :=
      Handler.canEnd_handle reached parallel quiet backend now uris
    obtain ⟨rest, alsoEnded, alsoOthers, alsoLeft⟩ :=
      Handler.canEnd_handle reached parallel quiet backend now
        (service.handler.reader.readable now uris)
    rw [← left, ← alsoLeft]
    refine ended.sameTrace alsoEnded reached isolate ?_
    rw [others, alsoOthers]

/-- While a call has a construction in flight. -/
theorem traceless_whileBuilding :
    let traffic := Traffic.run ⟨.empty true, []⟩
      [.arrive 1, .advance 0, .advance 0, .advance 0]
    (traffic.calls.map Call.standing = [⟨1, .building 0⟩]) ∧
      Traceless ⟨.standard, [], true, ⟨1, traffic.tables, .zero, []⟩⟩ (.ofStore .empty) 0
        traffic.calls :=
  ⟨rfl, traceless_of_reachable ((Traffic.Reachable.idle true).run _) _ _⟩

end Http

end SeriesQuery
