import SeriesQuery.Http.Route
import SeriesQuery.Http.Sharing
import SeriesQuery.Settings.Basic

set_option autoImplicit false

/-!
# The HTTP service

The service answers each request from the state that the ones before it left. Getting a URI below
the API's path runs one query, posting to the API's path runs a batch; besides, the service tells
its health and its counters. What cannot be routed is not found, and a method that a route does not
have is not allowed. A request for options is answered without looking at the route, which only adds
the methods that it has.
-/

namespace SeriesQuery.Http

open SeriesQuery.Batch SeriesQuery.Table

def version : String := "0.1.0"

structure Service where
  handler : Handler
  /-- The origins that responses are shared with; none means all. -/
  origins : List String
  tellsCounters : Bool
  engine : Engine

namespace Service

/-- The service that settings ask for, once the table of totals is opened. -/
def start (settings : Settings) (opened : Except StorageError Unit) : Except Error Service := do
  let engine ← Engine.start opened settings.query.resolution false
  return {
    handler := settings.handler
    origins := settings.server.origins
    tellsCounters := settings.monitoring.metricsEnabled
    engine }

def health (service : Service) : Json :=
  Json.ofMembers [
    ("status", Json.ofText "healthy"), ("version", Json.ofText version),
    ("tables_loaded", Json.ofInt service.engine.tables.loadedCount)]

def single (service : Service) (backend : Backend) (now : Int64) (uri : String) :
    Response × Service :=
  let (outcome, engine) := service.handler.query backend now service.engine uri
  (.ofOutcome Answer.toJson outcome, { service with engine })

def batch (service : Service) (backend : Backend) (now : Int64) (request : Request) :
    Response × Service :=
  let (outcome, engine) := service.handler.handleRequest backend now service.engine
    request.contentType? request.body
  (.ofOutcome (fun envelopes => .array (envelopes.map Envelope.toJson)) outcome,
    { service with engine })

/-- Gets a resource; none if it cannot be got. -/
def get? (service : Service) (backend : Backend) (now : Int64) : Route →
    Option (Response × Service)
  | .health => some (.ofJson 200 service.health, service)
  | .counters =>
    some (if service.tellsCounters then .ofSamples service.engine.samples else .plain 404, service)
  | .single uri => some (service.single backend now uri)
  | .batch => none

/-- Answers a request for a resource by a method; none if the resource does not have the method. -/
def answer? (service : Service) (backend : Backend) (now : Int64) (request : Request)
    (route : Route) : Option (Response × Service) :=
  match request.method, route with
  | .get, _ => service.get? backend now route
  | .head, _ => (service.get? backend now route).map fun (response, service) =>
    (response.withoutBody, service)
  | .post, .batch => some (service.batch backend now request)
  | _, _ => none

/-- Answers a request, without regard to who may read the response. -/
def route (service : Service) (backend : Backend) (now : Int64) (request : Request) :
    Response × Service :=
  let route? := Route.ofTarget? (.ofText request.target)
  let allow := route?.toList.map fun route => ("allow", route.allow)
  if request.method = .options then
    ((Response.plain 200).withHeaders (permissions ++ allow), service)
  else
    match route? with
    | none => (.plain 404, service)
    | some route =>
      (service.answer? backend now request route).getD
        ((Response.plain 405).withHeaders allow, service)

def respond (service : Service) (backend : Backend) (now : Int64) (request : Request) :
    Response × Service :=
  let (response, after) := service.route backend now request
  (response.withHeaders (sharedWith service.origins request), after)

end Service

end SeriesQuery.Http
