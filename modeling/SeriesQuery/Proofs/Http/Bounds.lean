import SeriesQuery.Proofs.Batch.Bounds
import SeriesQuery.Proofs.Http.SingleUri

set_option autoImplicit false

/-!
# Bounded responses

The limits that are set on URIs and batches bound what a service tells in its responses, from the start
of the service on.
-/

namespace SeriesQuery.Http

open SeriesQuery.Batch SeriesQuery.Table

/-- The responses of a service are bounded by settings. -/
structure Service.Bounded (settings : Settings) (service : Service) : Prop where
  /-- What is got below the API's path has the points that its URI asks for, -/
  got : ∀ backend now request uri, request.method = .get →
    Route.ofTarget? (.ofText request.target) = some (.single uri) →
    (service.respond backend now request).1.status = 200 →
      ∃ answer : Answer, (service.respond backend now request).1.body = .json answer.toJson ∧
        answer.Within settings.query.maxCount uri
  /-- also if others call for the tables meanwhile. -/
  alone : ∀ uri answer, Stage.Reached service.handler.reader uri (.done (.ok answer)) →
    answer.Within settings.query.maxCount uri
  /-- What is posted to the API's path has at most so many envelopes, each with the points that its URI
  asks for, -/
  posted : ∀ backend now request, request.method = .post →
    Route.ofTarget? (.ofText request.target) = some .batch →
    (service.respond backend now request).1.status = 200 →
      ∃ uris envelopes,
        service.handler.decodeEnvelope request.contentType? request.body = .ok uris ∧
        (service.respond backend now request).1.body =
          .json (.array (envelopes.map Envelope.toJson)) ∧
        envelopes.length ≤ settings.batch.maxItems ∧
        Told settings.query.maxCount uris envelopes
  /-- in whichever order its items and the calls of others take their steps. -/
  anyOrder : ∀ contentType body uris others turns envelopes,
    service.handler.decodeEnvelope contentType body = .ok uris →
    Handler.envelopes service.handler.policy
      ((service.handler.shared service.engine others uris).takeEach service.handler
        turns).run.settled.reverse = .ok envelopes →
      envelopes.length ≤ settings.batch.maxItems ∧ Told settings.query.maxCount uris envelopes
  /-- A response leaves all of this as it is. -/
  kept : ∀ backend now request, ∃ engine,
    (service.respond backend now request).2 = { service with engine }

section

variable {service : Service} {backend : Backend} {now : Int64} {request : Request}

theorem Service.get?_engine {resource : Route} {response : Response} {after : Service}
    (answered : service.get? backend now resource = some (response, after)) :
    ∃ engine, after = { service with engine } := by
  cases resource with
  | health | counters =>
      cases answered
      exact ⟨service.engine, rfl⟩
  | batch => cases answered
  | single uri =>
      simp only [get?, single, Option.some.injEq, Prod.mk.injEq] at answered
      exact ⟨_, answered.2.symm⟩

theorem Service.answer?_engine {resource : Route} {response : Response} {after : Service}
    (answered : service.answer? backend now request resource = some (response, after)) :
    ∃ engine, after = { service with engine } := by
  unfold answer? at answered
  split at answered
  · exact get?_engine answered
  · obtain ⟨⟨whole, _⟩, got, made⟩ := Option.map_eq_some_iff.mp answered
    cases made
    exact get?_engine got
  · simp only [batch, Option.some.injEq, Prod.mk.injEq] at answered
    exact ⟨_, answered.2.symm⟩
  · cases answered

/-- A response changes nothing about a service but its engine. -/
theorem Service.respond_engine (service : Service) (backend : Backend) (now : Int64)
    (request : Request) :
    ∃ engine, (service.respond backend now request).2 = { service with engine } := by
  simp only [respond, Service.route]
  split
  · exact ⟨service.engine, rfl⟩
  · cases Route.ofTarget? (.ofText request.target) with
    | none => exact ⟨service.engine, rfl⟩
    | some resource =>
        cases answered : service.answer? backend now request resource with
        | none => exact ⟨service.engine, by simp only [answered, Option.getD_none]⟩
        | some answer =>
            simp only [answered, Option.getD_some]
            exact answer?_engine answered

theorem exists_of_status {Value : Type} {render : Value → Json} {outcome : Except Error Value}
    {headers : List (String × String)}
    (succeeded : ((Response.ofOutcome render outcome).withHeaders headers).status = 200) :
    ∃ value, outcome = .ok value ∧
      ((Response.ofOutcome render outcome).withHeaders headers).body = .json (render value) := by
  cases outcome with
  | ok value => exact ⟨value, rfl, rfl⟩
  | error error => exact absurd succeeded (status_ne_ok error)

end

/-- Whatever a service has done since it was started, its responses are bounded by its settings. -/
theorem bounded_of_start {settings : Settings} {opened : Except StorageError Unit} {fresh : Service}
    (started : Service.start settings opened = .ok fresh) (engine : Engine) :
    ({ fresh with engine } : Service).Bounded settings := by
  have handler : fresh.handler = settings.handler := by
    cases opened with
    | error cause => cases started
    | ok _ =>
        cases started
        rfl
  constructor
  · intro backend now request uri method routed succeeded
    rw [Service.respond_get method routed] at succeeded ⊢
    obtain ⟨answer, answered, body⟩ := exists_of_status succeeded
    have within := Handler.within_query answered
    rw [handler] at within
    exact ⟨answer, body, within⟩
  · intro uri answer reached
    have within := reached.within answer rfl
    rw [handler] at within
    exact within
  · intro backend now request method routed succeeded
    rw [Service.respond_post method routed] at succeeded ⊢
    obtain ⟨envelopes, answered, body⟩ := exists_of_status succeeded
    obtain ⟨uris, decoded, told⟩ := Handler.told_handleRequest answered
    have few := Nat.le_trans told.length_le (Handler.length_of_decodeEnvelope decoded)
    rw [handler] at few told
    exact ⟨uris, envelopes, decoded, body, few, told⟩
  · intro contentType body uris others turns envelopes decoded given
    have told := Handler.told_takeEach given
    have few := Nat.le_trans told.length_le (Handler.length_of_decodeEnvelope decoded)
    rw [handler] at few told
    exact ⟨few, told⟩
  · intro backend now request
    apply Service.respond_engine

theorem bounded_of_start_shop :
    let service : Service := ⟨Settings.standard.handler, [], true, ⟨1, .empty false, .zero, []⟩⟩
    let get : Request := ⟨.get, "/api/v1/metrics/collect/reads/apps/shop?count=2", [], []⟩
    let response := (service.respond (.ofStore .empty) 10 get).1
    Service.start .standard (.ok ()) = .ok service ∧ response.status = 200 ∧
      ∃ answer : Answer, response.body = .json answer.toJson ∧
        answer.Within 86400 "collect/reads/apps/shop?count=2" := by
  intro service get response
  have started : Service.start .standard (.ok ()) = .ok service := rfl
  have routed : Route.ofTarget? (.ofText get.target) =
      some (.single "collect/reads/apps/shop?count=2") := by decide +kernel
  have succeeded : response.status = 200 := by decide +kernel
  refine ⟨started, succeeded, ?_⟩
  exact (bounded_of_start started service.engine).got _ _ get _ rfl routed succeeded

end SeriesQuery.Http
