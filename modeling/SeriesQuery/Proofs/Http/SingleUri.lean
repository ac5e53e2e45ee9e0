import SeriesQuery.Http.Service
import SeriesQuery.Proofs.Batch.Decoding
import SeriesQuery.Proofs.Batch.Isolation

set_option autoImplicit false

/-!
# A URI alone and in a batch of one

A metrics URI can be got below the API's path, or posted to the API's path as a batch of one. Both
requests read the same URI and have the same outcome, which the batch tells in an envelope unless its
policy lets the outcome fail the batch.
-/

namespace SeriesQuery

namespace Http

open SeriesQuery.Text SeriesQuery.Batch SeriesQuery.Table

/-! ## Requests -/

/-- A URI can stand below the API's path: it starts with a path that has no slash in front, and it has
no fragment. -/
structure Requestable (uri : String) : Prop where
  path : ∃ first rest, uri.toList = first :: rest ∧ first ≠ '/' ∧ first ≠ '?'
  fragment : '#' ∉ uri.toList

structure Gets (uri : String) (request : Request) : Prop where
  method : request.method = .get
  target : request.target = Route.apiPath ++ "/" ++ uri

/-- A request posts a batch of one URI. -/
structure Posts (uri : String) (request : Request) : Prop where
  method : request.method = .post
  target : request.target = Route.apiPath
  contentType : request.contentType? = some mediaType
  body : readUris? request.body = some [uri]

theorem readUris?_texts (uris : List String) :
    readUris? (Utf8.encode (Json.print (.array (uris.map Json.ofText)))) = some uris :=
  readUris?_eq_some_iff.mpr (bodyForm_printed uris)

/-! ## Routes -/

theorem afterHost?_slash (text : List Char) : afterHost? ('/' :: text) = none := by
  have stays : ('/' :: text).dropWhile isSchemeChar = '/' :: text :=
    List.dropWhile_cons_of_neg (by decide)
  rw [afterHost?, stays]
  rfl

/-- A target that starts with a slash is cut into its path and its query string only. -/
theorem Target.ofText_slash {target : String} {text : List Char} (slash : target.toList = '/' :: text)
    (fragment : '#' ∉ target.toList) :
    Target.ofText target = ⟨(cut '?' target.toList).1, (cut '?' target.toList).2⟩ := by
  rw [Target.ofText, cut_of_not_mem fragment, slash, afterHost?_slash]

theorem ofTarget?_api : Route.ofTarget? (.ofText Route.apiPath) = some .batch := by
  decide +kernel

theorem ofTarget?_below {below : List Char} (some : below ≠ []) (query : Option (List Char)) :
    Route.ofTarget? ⟨(Route.apiPath ++ "/").toList ++ below, query⟩ =
      .some (.single (Route.uriBelow below query)) := by
  have noHealth : (Route.apiPath ++ "/").toList ++ below ≠ "/health".toList := by
    intro same
    have start : ['/', 'a'] = ['/', 'h'] := congrArg (List.take 2) same
    exact absurd start (by decide)
  have noCounters : (Route.apiPath ++ "/").toList ++ below ≠ "/metrics".toList := by
    intro same
    have start : ['/', 'a'] = ['/', 'm'] := congrArg (List.take 2) same
    exact absurd start (by decide)
  have noBatch : (Route.apiPath ++ "/").toList ++ below ≠ Route.apiPath.toList := by
    intro same
    have longer : 16 + below.length = 15 := by
      have lengths := congrArg List.length same
      rwa [List.length_append] at lengths
    omega
  have found : after? (Route.apiPath ++ "/").toList ((Route.apiPath ++ "/").toList ++ below) =
      .some below := after?_eq_some_iff.mpr rfl
  simp only [Route.ofTarget?, if_neg noHealth, if_neg noCounters, if_neg noBatch, found]

/-- A URI below the API's path is routed to as it is written. -/
theorem Requestable.route {uri : String} (requestable : Requestable uri) :
    Route.ofTarget? (.ofText (Route.apiPath ++ "/" ++ uri)) = some (.single uri) := by
  obtain ⟨⟨first, rest, written, noSlash, noQuery⟩, fragment⟩ := requestable
  have target : (Route.apiPath ++ "/" ++ uri).toList = (Route.apiPath ++ "/").toList ++ uri.toList :=
    String.toList_append
  have noMark : '#' ∉ (Route.apiPath ++ "/" ++ uri).toList := by
    rw [target]
    exact List.not_mem_append (by decide) fragment
  have slash : (Route.apiPath ++ "/" ++ uri).toList =
      '/' :: ("api/v1/metrics/".toList ++ uri.toList) := target
  have split : cut '?' uri.toList = (first :: (cut '?' rest).1, (cut '?' rest).2) := by
    rw [written, cut, if_neg noQuery]
  have same : Route.uriBelow (first :: (cut '?' rest).1) (cut '?' rest).2 = uri := by
    have joined := cut_append '?' uri.toList
    rw [split] at joined
    have bare : (first :: (cut '?' rest).1).dropWhile (· = '/') = first :: (cut '?' rest).1 :=
      List.dropWhile_cons_of_neg (by simpa using noSlash)
    refine String.toList_inj.mp (Eq.trans ?_ joined)
    cases (cut '?' rest).2 with
    | none => exact String.toList_ofList.trans (congrArg (· ++ []) bare)
    | some query => exact String.toList_ofList.trans (congrArg (· ++ '?' :: query) bare)
  rw [Target.ofText_slash slash noMark, target, cut_append_of_not_mem (by decide), split,
    ofTarget?_below (List.cons_ne_nil _ _), same]

/-! ## Responses -/

namespace Response

def Succeeds (response : Response) (body : Json) : Prop :=
  response.status = 200 ∧ response.body = .json body

/-- A response fails and tells an error. -/
def Fails (response : Response) (message : String) : Prop :=
  response.status ≠ 200 ∧
    response.body = .json (Json.ofMembers [("error", Json.ofText message)])

/-- A response is that of a batch of one URI. -/
def Envelops (response : Response) (uri : String) (result error : Json) : Prop :=
  response.Succeeds (.array [Json.ofMembers [
    ("path", Json.ofText uri), ("result", result), ("error", error)]])

end Response

theorem status_ne_ok (error : Error) : error.status ≠ 200 := by
  cases error <;> simp [Error.status]

section

variable {service : Service} {backend : Backend} {now : Int64} {uri : String} {request : Request}

theorem Service.respond_get (method : request.method = .get)
    (routed : Route.ofTarget? (.ofText request.target) = some (.single uri)) :
    (service.respond backend now request).1 =
      (Response.ofOutcome Answer.toJson
        (service.handler.query backend now service.engine uri).1).withHeaders
        (sharedWith service.origins request) := by
  simp only [respond, Service.route, routed, method, answer?, get?, single, reduceCtorEq, ↓reduceIte,
    Option.getD_some]

theorem Service.respond_post (method : request.method = .post)
    (routed : Route.ofTarget? (.ofText request.target) = some .batch) :
    (service.respond backend now request).1 =
      (Response.ofOutcome (fun envelopes => .array (envelopes.map Envelope.toJson))
        (service.handler.handleRequest backend now service.engine request.contentType?
          request.body).1).withHeaders (sharedWith service.origins request) := by
  simp only [respond, Service.route, routed, method, answer?, batch, reduceCtorEq, ↓reduceIte,
    Option.getD_some]

theorem Gets.respond_fst (gets : Gets uri request) (requestable : Requestable uri) :
    (service.respond backend now request).1 =
      (Response.ofOutcome Answer.toJson
        (service.handler.query backend now service.engine uri).1).withHeaders
        (sharedWith service.origins request) := by
  apply Service.respond_get gets.method
  rw [gets.target, requestable.route]

/-- A response to an accepted batch that is posted while others call on the tables, in whichever order
its items and their calls take their steps. -/
def Service.CanRespond (service : Service) (backend : Backend) (now : Int64) (others : List Call)
    (request : Request) (response : Response) : Prop :=
  ∃ uris answer, service.handler.decodeEnvelope request.contentType? request.body = .ok uris ∧
    service.handler.CanAnswer backend now service.engine others uris answer ∧
    (Response.ofOutcome (fun envelopes => .array (envelopes.map Envelope.toJson)) answer).withHeaders
      (sharedWith service.origins request) = response

theorem Posts.decoded (posts : Posts uri request) {handler : Handler} (room : 1 ≤ handler.maxItems) :
    handler.decodeEnvelope request.contentType? request.body = .ok [uri] := by
  have isMedia : isMediaType mediaType = true := by decide +kernel
  simp only [Handler.decodeEnvelope, decode, posts.contentType, Option.getD_some, isMedia,
    posts.body, List.length_singleton, if_neg (Nat.not_lt.mpr room), ↓reduceIte]

theorem Posts.respond_fst (posts : Posts uri request) (room : 1 ≤ service.handler.maxItems) :
    (service.respond backend now request).1 =
      (Response.ofOutcome (fun envelopes => .array (envelopes.map Envelope.toJson))
        (service.handler.handle backend now service.engine [uri]).1).withHeaders
        (sharedWith service.origins request) := by
  have routed : Route.ofTarget? (.ofText request.target) = some .batch := by
    rw [posts.target, ofTarget?_api]
  rw [Service.respond_post posts.method routed, Handler.handleRequest, posts.decoded room]

end

/-! ## What a response tells -/

section

variable {Value : Type} {render : Value → Json} {outcome : Except Error Value}
  {headers : List (String × String)}

theorem succeeds_ofOutcome_iff {body : Json} :
    ((Response.ofOutcome render outcome).withHeaders headers).Succeeds body ↔
      ∃ value, outcome = .ok value ∧ render value = body := by
  cases outcome with
  | ok value =>
      constructor
      · intro given
        exact ⟨value, rfl, Body.json.inj given.2⟩
      · intro given
        obtain ⟨_, ⟨⟩, rfl⟩ := given
        exact ⟨rfl, rfl⟩
  | error error =>
      constructor
      · intro given
        exact absurd given.1 (status_ne_ok error)
      · intro given
        obtain ⟨_, ⟨⟩, _⟩ := given

theorem fails_ofOutcome_iff {message : String} :
    ((Response.ofOutcome render outcome).withHeaders headers).Fails message ↔
      ∃ error, outcome = .error error ∧ error.message = message := by
  cases outcome with
  | ok value =>
      constructor
      · intro given
        exact absurd rfl given.1
      · intro given
        obtain ⟨_, ⟨⟩, _⟩ := given
  | error error =>
      constructor
      · intro given
        refine ⟨error, rfl, ?_⟩
        have same := Body.json.inj given.2
        simpa [Json.ofMembers, Json.ofText] using same
      · intro given
        obtain ⟨_, ⟨⟩, rfl⟩ := given
        exact ⟨status_ne_ok error, rfl⟩

end

/-- What the envelope of an outcome holds as its result. -/
def resultJson : Except Error Answer → Json
  | .ok answer => answer.toJson
  | .error _ => .null

def errorJson : Except Error Answer → Json
  | .ok _ => .null
  | .error error => Json.ofText error.message

theorem toJson_ofOutcome (uri : String) (outcome : Except Error Answer) :
    (Envelope.ofOutcome uri outcome).toJson = Json.ofMembers [
      ("path", Json.ofText uri), ("result", resultJson outcome), ("error", errorJson outcome)] := by
  cases outcome <;> rfl

theorem toJson_ne_null (answer : Answer) : answer.toJson ≠ .null := by
  intro same
  cases answer <;> cases same

theorem holds_result_iff {outcome : Except Error Answer} {body : Json} :
    resultJson outcome = body ∧ errorJson outcome = .null ↔
      ∃ answer, outcome = .ok answer ∧ answer.toJson = body := by
  cases outcome with
  | ok answer => simp [resultJson, errorJson]
  | error error => simp [errorJson, Json.ofText]

theorem holds_error_iff {outcome : Except Error Answer} {message : String} :
    resultJson outcome = .null ∧ errorJson outcome = Json.ofText message ↔
      ∃ error, outcome = .error error ∧ error.message = message := by
  cases outcome with
  | ok answer => simp [resultJson, toJson_ne_null]
  | error error => simp [resultJson, errorJson, Json.ofText]

/-! ## Agreement -/

theorem one_le_maxItems {settings : Settings} (valid : settings.fault? = none) :
    1 ≤ settings.handler.maxItems := by
  have room : settings.batch.maxItems ≠ 0 := by
    intro empty
    simp only [Settings.fault?, empty, ↓reduceIte] at valid
    grind
  exact Nat.one_le_iff_ne_zero.mpr room

section

variable {service : Service} {others : List Call} {backend : Backend} {now : Int64} {uri : String}
  {get post : Request} {posted : Response}

theorem Service.CanRespond.answers (given : service.CanRespond backend now others post posted)
    (reached : Traffic.Reachable ⟨service.engine.tables, others⟩) (posts : Posts uri post)
    (room : 1 ≤ service.handler.maxItems) :
    ∃ answer, Answers (fun uri => (service.handler.query backend now service.engine uri).1) [uri]
        service.handler.policy answer ∧
      posted = (Response.ofOutcome (fun envelopes => .array (envelopes.map Envelope.toJson))
        answer).withHeaders (sharedWith service.origins post) := by
  obtain ⟨uris, answer, decoded, answered, rfl⟩ := given
  rw [posts.decoded room] at decoded
  cases decoded
  exact ⟨answer, answered.answers reached, rfl⟩

theorem Service.CanRespond.envelops (given : service.CanRespond backend now others post posted)
    (reached : Traffic.Reachable ⟨service.engine.tables, others⟩) (posts : Posts uri post)
    (room : 1 ≤ service.handler.maxItems) (isolate : service.handler.policy = .isolate) :
    posted.Envelops uri (resultJson (service.handler.query backend now service.engine uri).1)
      (errorJson (service.handler.query backend now service.engine uri).1) := by
  obtain ⟨answer, answers, rfl⟩ := given.answers reached posts room
  rw [isolate] at answers
  rw [answers.eq_of_isolate, Response.Envelops, ← toJson_ofOutcome]
  exact ⟨rfl, rfl⟩

/-- Where a failing item fails its batch, the response is that to the URI, but for the envelope around
an answer. -/
theorem Service.CanRespond.eq_of_abort (given : service.CanRespond backend now others post posted)
    (reached : Traffic.Reachable ⟨service.engine.tables, others⟩) (posts : Posts uri post)
    (room : 1 ≤ service.handler.maxItems) (abort : service.handler.policy = .abort) :
    posted = (Response.ofOutcome
      (fun answer => .array [(Envelope.ofOutcome uri (.ok answer)).toJson])
      (service.handler.query backend now service.engine uri).1).withHeaders
      (sharedWith service.origins post) := by
  obtain ⟨answer, answers, rfl⟩ := given.answers reached posts room
  rw [abort] at answers
  rw [answers.eq_of_abort]
  cases (service.handler.query backend now service.engine uri).1 <;> rfl

theorem envelops_ofOutcome_iff {outcome : Except Error Answer} {headers : List (String × String)}
    {body : Json} :
    ((Response.ofOutcome (fun answer => .array [(Envelope.ofOutcome uri (.ok answer)).toJson])
        outcome).withHeaders headers).Envelops uri body .null ↔
      ∃ answer, outcome = .ok answer ∧ answer.toJson = body := by
  rw [Response.Envelops, succeeds_ofOutcome_iff]
  refine exists_congr fun answer => and_congr_right fun _ => ?_
  simp [toJson_ofOutcome, Json.ofMembers, resultJson, errorJson]

/-- Getting a URI and posting it as a batch of one, for example in compact JSON, have the same outcome
from every state that the tables can reach. The posted batch can be answered, and the outcome does not
depend on when others take their steps; unless they have a construction in flight, the service's own
response is one that the batch can get. -/
theorem get_agrees_with_post {settings : Settings} (valid : settings.fault? = none)
    (configured : service.handler = settings.handler)
    (reached : Traffic.Reachable ⟨service.engine.tables, others⟩) (backend : Backend) (now : Int64)
    (requestable : Requestable uri) (gets : Gets uri get) (posts : Posts uri post) :
    let got := (service.respond backend now get).1
    readUris? (Utf8.encode (Json.print (.array [Json.ofText uri]))) = some [uri] ∧
    ((∃ body, got.Succeeds body) ∨ ∃ message, got.Fails message) ∧
    (∃ posted, service.CanRespond backend now others post posted) ∧
    (flights others service.engine.resolution = 0 →
      service.CanRespond backend now others post (service.respond backend now post).1) ∧
    ∀ posted, service.CanRespond backend now others post posted →
      (settings.batch.policy = .isolate →
        ∃ result error, posted.Envelops uri result error ∧
          (∀ body, got.Succeeds body ↔ result = body ∧ error = .null) ∧
          (∀ message, got.Fails message ↔ result = .null ∧ error = Json.ofText message) ∧
          ∀ message, got.Fails message →
            ∃ cause, (service.handler.query backend now service.engine uri).1 = .error cause ∧
              cause.message = message ∧ got.status = cause.status) ∧
      (settings.batch.policy = .abort →
        (got.status ≠ 200 ↔ posted.status ≠ 200) ∧
        (got.status ≠ 200 → posted.status = got.status ∧ posted.body = got.body) ∧
        ∀ body, got.Succeeds body ↔ posted.Envelops uri body .null) := by
  have room : 1 ≤ service.handler.maxItems := configured ▸ one_le_maxItems valid
  have parallel : 1 ≤ service.handler.parallelism := configured ▸ Nat.le_max_right _ _
  have policy : service.handler.policy = settings.batch.policy := by
    rw [configured]
    rfl
  refine ⟨readUris?_texts [uri], ?_, ?_, ?_, ?_⟩
  · rw [gets.respond_fst requestable]
    simp only [succeeds_ofOutcome_iff, fails_ofOutcome_iff]
    cases (service.handler.query backend now service.engine uri).1 with
    | ok answer => exact .inl ⟨_, answer, rfl, rfl⟩
    | error error => exact .inr ⟨_, error, rfl, rfl⟩
  · obtain ⟨answer, answered⟩ := Handler.exists_canAnswer reached parallel backend now [uri]
    exact ⟨_, [uri], answer, posts.decoded room, answered, rfl⟩
  · intro quiet
    rw [posts.respond_fst room]
    exact ⟨[uri], _, posts.decoded room,
      Handler.canAnswer_handle reached parallel quiet backend now [uri], rfl⟩
  · intro posted given
    -- Both responses are put together from what the URI gets alone.
    rw [gets.respond_fst requestable]
    constructor
    · intro isolate
      have envelops := given.envelops reached posts room (policy.trans isolate)
      refine ⟨_, _, envelops, ?_, ?_, ?_⟩
      · intro body
        rw [succeeds_ofOutcome_iff, holds_result_iff]
      · intro message
        rw [fails_ofOutcome_iff, holds_error_iff]
      · intro message failed
        obtain ⟨error, failing, told⟩ := fails_ofOutcome_iff.mp failed
        rw [failing]
        exact ⟨error, rfl, told, rfl⟩
    · intro abort
      rw [given.eq_of_abort reached posts room (policy.trans abort)]
      refine ⟨?_, ?_, ?_⟩
      · cases (service.handler.query backend now service.engine uri).1 <;> exact .rfl
      · intro failed
        cases outcome : (service.handler.query backend now service.engine uri).1 with
        | ok answer =>
            rw [outcome] at failed
            exact absurd rfl failed
        | error error => exact ⟨rfl, rfl⟩
      · intro body
        rw [succeeds_ofOutcome_iff, envelops_ofOutcome_iff]

end

theorem get_agrees_with_post_shop :
    let service : Service := ⟨Settings.standard.handler, [], true, ⟨1, .empty true, .zero, []⟩⟩
    let uri := "collect/reads%2Fs/apps/shop?count=2&end=10"
    let get : Request := ⟨.get, "/api/v1/metrics/" ++ uri, [], []⟩
    let post : Request := ⟨.post, "/api/v1/metrics", [("Content-Type", "application/json")],
      Utf8.encode (Json.print (.array [Json.ofText uri]))⟩
    ∃ result, (service.respond (.ofStore .empty) 0 get).1.Succeeds result ∧
      (service.respond (.ofStore .empty) 0 post).1.Envelops uri result .null := by
  intro service uri get post
  have requestable : Requestable uri := by
    refine ⟨⟨'c', "ollect/reads%2Fs/apps/shop?count=2&end=10".toList, ?_, ?_⟩, ?_⟩
    · decide +kernel
    · decide
    · decide +kernel
  have reached : Traffic.Reachable ⟨service.engine.tables, []⟩ := .idle true
  have gets : Gets uri get := ⟨rfl, rfl⟩
  have posts : Posts uri post := ⟨rfl, rfl, by decide +kernel, readUris?_texts [uri]⟩
  have valid : Settings.standard.fault? = none := by decide
  obtain ⟨_, told, _, own, agree⟩ :=
    get_agrees_with_post valid rfl reached (.ofStore .empty) 0 requestable gets posts
  obtain ⟨result, error, envelops, succeeds, _⟩ := (agree _ (own rfl)).1 rfl
  have status : (service.respond (.ofStore .empty) 0 get).1.status = 200 := by decide +kernel
  rcases told with ⟨body, answered⟩ | ⟨message, failed⟩
  · obtain ⟨rfl, rfl⟩ := (succeeds body).mp answered
    exact ⟨result, answered, envelops⟩
  · exact absurd status failed.1

end Http

end SeriesQuery
