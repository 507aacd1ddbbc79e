import Rama.Fp.Report
import Mathlib.Data.List.Nodup

/-!
# The number endpoints and their shared counter

Four endpoints of the fingerprinting service answer the requests of the report's
script with a number and the fingerprint of the request, as the object
`{"number": _, "fp": {"headers": _, "request_info": _}}`. The `GET` endpoints of
`fetch` and of `XMLHttpRequest` hand out the value of the counter in the service's
state, which they increment with one atomic `fetch_add`; the `POST` endpoints echo
the number of their path, `0` when it does not parse, and leave the counter alone.
The two endpoints of each method have the same body (`countNumber`, `echoNumber`).

The service runs its handlers concurrently. Each reaches the shared state only
through its one atomic `fetch_add`, so a run of the service serves whole requests one
after another, in the order of those atomic steps, and any request in flight may be
the next (`Server.Step`). Over every run the service keeps a ledger
(`Server.Ledger`): the requests answered and those still in flight are the requests
the run started with; every answer carries the fingerprint of its own request and,
for a `POST`, the number of its path; and the counting endpoints handed out the
counter's values from where it started, one each, in the order they were served,
with the counter just past them. Serving one request keeps the ledger
(`Server.Ledger.step`), so every reachable server keeps it
(`Server.ledger_of_reachable`): no request is lost or answered twice, and as long as
fewer than `2^64` counting requests have been answered no number is handed out twice
(`Server.numbers_nodup_of_reachable`). From every reachable server the run can go on
until nothing is in flight, and every server it reaches with nothing in flight has
answered each request once (`Server.reachable_all_answered`).

The encoding of `RequestInfo` is derived by `serde` in a module that is not among the
sources; it is a parameter, so every statement holds for every encoding.
-/

set_option autoImplicit false

namespace Rama.Fp

/-! ## Answers -/

/-- A value of `serde_json`, as far as the number endpoints build one. -/
inductive Json where
  | number (value : UInt64)
  | string (value : String)
  | array (items : List Json)
  | object (fields : List (String × Json))

/-- The value under a key of an object. -/
def Json.get? (key : String) : Json → Option Json
  | .object fields => fields.lookup key
  | _ => none

/-- The number an answer carries under `"number"`. -/
def Json.number? (answer : Json) : Option UInt64 :=
  match answer.get? "number" with
  | some (.number value) => some value
  | _ => none

/-- `Serialize` of the headers, `Vec<(String, String)>`: an array of pairs, each an
array of the name and the value. -/
def headersJson (headers : List (String × String)) : Json :=
  .array (headers.map fun header => .array [.string header.1, .string header.2])

/-- `APINumberParams`: the number of the path, a `usize`, modelled at 64 bits. -/
structure APINumberParams where
  number : UInt64

/-- What a number endpoint reads of its request: the headers `get_http_info` collects,
the `RequestInfo` that `get_request_info` makes of it (for `FetchMode::SameOrigin`,
`ResourceType::Xhr` and `Initiator::Fetch`, at all four endpoints), and what `Path`
extracts of its path as `APINumberParams`. -/
structure ApiRequest where
  headers : List (String × String)
  requestInfo : RequestInfo
  path : Except String APINumberParams

/-- The `json!` body of every number endpoint: the number and the fingerprint. -/
def numberJson (encode : RequestInfo → Json) (number : UInt64) (req : ApiRequest) : Json :=
  .object [("number", .number number),
    ("fp", .object [("headers", headersJson req.headers),
      ("request_info", encode req.requestInfo)])]

@[simp]
theorem number?_numberJson (encode : RequestInfo → Json) (number : UInt64) (req : ApiRequest) :
    (numberJson encode number req).number? = some number := rfl

/-! ## The endpoints -/

/-- `State`, as the number endpoints read it: the request counter, an `AtomicUsize`
modelled at 64 bits. -/
structure State where
  counter : UInt64

/-- The body of the `GET` number endpoints: the counter's value before `fetch_add(1)`,
which increments it, wrapping at `2^64`. -/
def countNumber (encode : RequestInfo → Json) (state : State) (req : ApiRequest) :
    Json × State :=
  (numberJson encode state.counter req, ⟨state.counter + 1⟩)

/-- The body of the `POST` number endpoints: the number of the path, `0` when it does
not parse; the counter is left alone. -/
def echoNumber (encode : RequestInfo → Json) (state : State) (req : ApiRequest) :
    Json × State :=
  let number := match req.path with
    | .ok params => params.number
    | .error _ => 0
  (numberJson encode number req, state)

/-- `get_api_fetch_number`. -/
def getApiFetchNumber (encode : RequestInfo → Json) : State → ApiRequest → Json × State :=
  countNumber encode

/-- `post_api_fetch_number`. -/
def postApiFetchNumber (encode : RequestInfo → Json) : State → ApiRequest → Json × State :=
  echoNumber encode

/-- `get_api_xml_http_request_number`. -/
def getApiXmlHttpRequestNumber (encode : RequestInfo → Json) :
    State → ApiRequest → Json × State :=
  countNumber encode

/-- `post_api_xml_http_request_number`. -/
def postApiXmlHttpRequestNumber (encode : RequestInfo → Json) :
    State → ApiRequest → Json × State :=
  echoNumber encode

/-- The four number endpoints. -/
inductive ApiEndpoint
  | getFetchNumber
  | postFetchNumber
  | getXmlHttpRequestNumber
  | postXmlHttpRequestNumber
  deriving DecidableEq

/-- The handler of an endpoint. -/
def ApiEndpoint.handler (encode : RequestInfo → Json) :
    ApiEndpoint → State → ApiRequest → Json × State
  | .getFetchNumber => getApiFetchNumber encode
  | .postFetchNumber => postApiFetchNumber encode
  | .getXmlHttpRequestNumber => getApiXmlHttpRequestNumber encode
  | .postXmlHttpRequestNumber => postApiXmlHttpRequestNumber encode

/-- The endpoints that hand out the counter. -/
def ApiEndpoint.counts : ApiEndpoint → Bool
  | .getFetchNumber | .getXmlHttpRequestNumber => true
  | .postFetchNumber | .postXmlHttpRequestNumber => false

/-- The number a `POST` echoes: the path's, `0` when it does not parse. -/
def ApiRequest.pathNumber (req : ApiRequest) : UInt64 :=
  match req.path with
  | .ok params => params.number
  | .error _ => 0

/-- What one handler does: a counting endpoint answers the counter and increments it; an
echoing one answers its path's number and leaves the state alone. -/
theorem ApiEndpoint.handler_eq (encode : RequestInfo → Json) (endpoint : ApiEndpoint)
    (state : State) (req : ApiRequest) :
    endpoint.handler encode state req =
      if endpoint.counts then (numberJson encode state.counter req, ⟨state.counter + 1⟩)
      else (numberJson encode req.pathNumber req, state) := by
  cases endpoint <;> rfl

/-! ## The service with requests in flight -/

/-- An answer given: the endpoint, the request and the response. -/
structure Answer where
  endpoint : ApiEndpoint
  request : ApiRequest
  response : Json

/-- The service while requests are in flight: the shared state, the requests not yet
served, and the answers given, in the order their handlers reached the state. -/
structure Server where
  state : State
  pending : List (ApiEndpoint × ApiRequest)
  answered : List Answer

/-- One handler runs. Any request in flight may be next: a handler reaches the shared
state only through its one atomic `fetch_add`, so concurrent handlers act as if they ran
one after another, in the order of those. -/
inductive Server.Step (encode : RequestInfo → Json) : Server → Server → Prop
  | serve (state : State) (before after : List (ApiEndpoint × ApiRequest))
      (endpoint : ApiEndpoint) (req : ApiRequest) (answered : List Answer) :
      Server.Step encode ⟨state, before ++ (endpoint, req) :: after, answered⟩
        ⟨(endpoint.handler encode state req).2, before ++ after,
          answered ++ [⟨endpoint, req, (endpoint.handler encode state req).1⟩]⟩

/-- The servers a run reaches from `requests` in flight and the state `start`. -/
def Server.Reachable (encode : RequestInfo → Json) (start : State)
    (requests : List (ApiEndpoint × ApiRequest)) (server : Server) : Prop :=
  Relation.ReflTransGen (Server.Step encode) ⟨start, requests, []⟩ server

/-- How many answers came from a counting endpoint. -/
def countedRequests (answered : List Answer) : Nat :=
  answered.countP (·.endpoint.counts)

/-- The numbers the counting endpoints handed out, in the order they answered. -/
def countedNumbers (answered : List Answer) : List UInt64 :=
  answered.filterMap fun answer =>
    if answer.endpoint.counts then answer.response.number? else none

@[simp]
theorem countedRequests_append_singleton (answered : List Answer) (answer : Answer) :
    countedRequests (answered ++ [answer]) =
      countedRequests answered + if answer.endpoint.counts then 1 else 0 := by
  simp only [countedRequests, List.countP_append, List.countP_singleton]

@[simp]
theorem countedNumbers_append_singleton (answered : List Answer) (answer : Answer) :
    countedNumbers (answered ++ [answer]) =
      countedNumbers answered ++
        (if answer.endpoint.counts then answer.response.number? else none).toList := by
  simp only [countedNumbers, List.filterMap_append, List.filterMap_cons, List.filterMap_nil]
  split <;> simp_all

/-- An answer of the endpoints: the fingerprint of its own request with a number, the
number of its path for a `POST`. -/
def Answer.Valid (encode : RequestInfo → Json) (answer : Answer) : Prop :=
  ∃ number, answer.response = numberJson encode number answer.request ∧
    (answer.endpoint.counts = false → number = answer.request.pathNumber)

/-- The ledger of a run from the state `start` with `requests` in flight. -/
structure Server.Ledger (encode : RequestInfo → Json) (start : State)
    (requests : List (ApiEndpoint × ApiRequest)) (server : Server) : Prop where
  /-- Every request is answered or still in flight, once. -/
  conserved :
    (server.answered.map (fun answer => (answer.endpoint, answer.request)) ++
      server.pending).Perm requests
  /-- Every answer is the fingerprint of its own request. -/
  valid : ∀ answer ∈ server.answered, answer.Valid encode
  /-- The counting endpoints handed out the counter's values from `start` on, in order. -/
  numbers : countedNumbers server.answered =
    (List.range (countedRequests server.answered)).map
      fun i => start.counter + UInt64.ofNat i
  /-- The counter is just past the numbers handed out. -/
  counter : server.state.counter =
    start.counter + UInt64.ofNat (countedRequests server.answered)

/-! ## Runs keep the ledger -/

section Ledger

variable {encode : RequestInfo → Json} {start : State}
  {requests : List (ApiEndpoint × ApiRequest)}

theorem UInt64.toNat_ofNat_eq_mod (n : Nat) : (UInt64.ofNat n).toNat = n % UInt64.size := rfl

/-- Handing out one more number moves the counter one on, wrapping as `usize` does. -/
theorem counter_add_one (counter : UInt64) (n : Nat) :
    counter + UInt64.ofNat n + 1 = counter + UInt64.ofNat (n + 1) := by
  apply UInt64.ext
  simp only [UInt64.toNat_add, UInt64.toNat_ofNat_eq_mod, UInt64.toNat_ofNat, UInt64.size]
  omega

theorem Server.ledger_start : Server.Ledger encode start requests ⟨start, requests, []⟩ where
  conserved := List.Perm.refl _
  valid := fun _ absent => absurd absent (List.not_mem_nil _)
  numbers := rfl
  counter := by
    apply UInt64.ext
    have := start.counter.toNat_lt
    simp only [countedRequests, List.countP_nil, UInt64.toNat_add, UInt64.toNat_ofNat_eq_mod,
      UInt64.size]
    omega

/-- **Serving one request keeps the ledger.** -/
theorem Server.Ledger.step {server next : Server}
    (ledger : Server.Ledger encode start requests server) (step : Server.Step encode server next) :
    Server.Ledger encode start requests next := by
  cases step with
  | serve state before after endpoint req answered =>
    obtain ⟨conserved, valid, numbers, counter⟩ := ledger
    dsimp only at conserved valid numbers counter
    have served :
        ((endpoint, req) :: (before ++ after)).Perm (before ++ (endpoint, req) :: after) :=
      (@List.perm_middle _ (endpoint, req) before after).symm
    -- what does not depend on the endpoint's kind: the request moves to the answers
    have kept : ∀ response : Json,
        ((answered ++ [Answer.mk endpoint req response]).map
          (fun answer => (answer.endpoint, answer.request)) ++ (before ++ after)).Perm requests :=
      fun _ => by
        simpa only [List.map_append, List.map_singleton, List.append_assoc,
          List.singleton_append] using (served.append_left _).trans conserved
    have validAfter : ∀ response : Json, (Answer.mk endpoint req response).Valid encode →
        ∀ answer ∈ answered ++ [Answer.mk endpoint req response], answer.Valid encode :=
      fun _ new answer mem => (List.mem_append.mp mem).elim (valid answer)
        fun last => List.mem_singleton.mp last ▸ new
    rw [ApiEndpoint.handler_eq]
    cases counts : endpoint.counts
    · -- an echo: no number handed out, the counter left alone
      refine ⟨kept _, validAfter _ ⟨_, rfl, fun _ => rfl⟩, ?_, ?_⟩
      · simpa only [countedNumbers_append_singleton, countedRequests_append_singleton, counts,
          Bool.false_eq_true, if_false, Option.toList_none, List.append_nil, Nat.add_zero]
          using numbers
      · simpa only [countedRequests_append_singleton, counts, Bool.false_eq_true, if_false,
          Nat.add_zero] using counter
    · -- a count: the counter's value handed out, the counter one on
      refine ⟨kept _,
        validAfter _ ⟨_, rfl, fun echo => Bool.noConfusion (counts.symm.trans echo)⟩, ?_, ?_⟩
      · simp only [countedNumbers_append_singleton, countedRequests_append_singleton, counts,
          if_true, number?_numberJson, Option.toList_some, numbers, counter, List.range_succ,
          List.map_append, List.map_singleton]
      · simp only [countedRequests_append_singleton, counts, if_true, ← counter_add_one, counter]

/-- A run from a server that keeps the ledger keeps it. -/
theorem Server.Ledger.trace {server next : Server}
    (ledger : Server.Ledger encode start requests server)
    (run : Relation.ReflTransGen (Server.Step encode) server next) :
    Server.Ledger encode start requests next := by
  induction run with
  | refl => exact ledger
  | tail _ step kept => exact kept.step step

/-- An encoding of `RequestInfo` for the runs below: the empty object. -/
def emptyInfoJson (_ : RequestInfo) : Json := .object []

/-- A request with no headers and a path without a number. -/
def bareRequest : ApiRequest :=
  ⟨[], ⟨none, "", "", none, "", "", "", "", "", ""⟩, .error "missing number"⟩

/-- The server after one `GET` of `fetch` from the counter `41`. -/
def fetchServed : Server :=
  ⟨⟨42⟩, [], [⟨.getFetchNumber, bareRequest, numberJson emptyInfoJson 41 bareRequest⟩]⟩

/-- **Every reachable server keeps the ledger.** Whatever order the handlers reach the
counter in, every request is answered or in flight, once; every answer carries the
fingerprint of its request, and a `POST` answer its path's number; and the counting
endpoints handed out the counter's values from where it started, in the order they
were served, with the counter just past them. -/
theorem Server.ledger_of_reachable {server : Server}
    (reach : Server.Reachable encode start requests server) :
    Server.Ledger encode start requests server :=
  Server.ledger_start.trace reach

theorem ledger_of_reachable_fetch :
    Server.Reachable emptyInfoJson ⟨41⟩ [(.getFetchNumber, bareRequest)] fetchServed ∧
      Server.Ledger emptyInfoJson ⟨41⟩ [(.getFetchNumber, bareRequest)] fetchServed :=
  have reach :
      Server.Reachable emptyInfoJson ⟨41⟩ [(.getFetchNumber, bareRequest)] fetchServed :=
    .single (Server.Step.serve _ [] [] .getFetchNumber bareRequest [])
  ⟨reach, Server.ledger_of_reachable reach⟩

/-- The server after a `GET` of `fetch` and one of `XMLHttpRequest` from the counter's
last value: the second number wraps to `0`. -/
def wrapServed : Server :=
  ⟨⟨1⟩, [], [
    ⟨.getFetchNumber, bareRequest, numberJson emptyInfoJson 18446744073709551615 bareRequest⟩,
    ⟨.getXmlHttpRequestNumber, bareRequest, numberJson emptyInfoJson 0 bareRequest⟩]⟩

/-- **No number is handed out twice.** In every run, as long as fewer than `2^64`
counting requests have been answered, the numbers of the counting endpoints are
pairwise distinct. -/
theorem Server.numbers_nodup_of_reachable {server : Server}
    (reach : Server.Reachable encode start requests server)
    (few : countedRequests server.answered ≤ UInt64.size) :
    (countedNumbers server.answered).Nodup := by
  rw [(Server.ledger_start.trace reach).numbers]
  refine (List.nodup_range _).map_on fun i low j high same => ?_
  have := congrArg UInt64.toNat same
  simp only [List.mem_range, UInt64.toNat_add, UInt64.toNat_ofNat_eq_mod, UInt64.size] at *
  omega

theorem numbers_nodup_of_reachable_wrap :
    Server.Reachable emptyInfoJson ⟨18446744073709551615⟩
        [(.getFetchNumber, bareRequest), (.getXmlHttpRequestNumber, bareRequest)] wrapServed ∧
      countedRequests wrapServed.answered ≤ UInt64.size ∧
        (countedNumbers wrapServed.answered).Nodup :=
  have reach : Server.Reachable emptyInfoJson ⟨18446744073709551615⟩
      [(.getFetchNumber, bareRequest), (.getXmlHttpRequestNumber, bareRequest)] wrapServed :=
    .tail
      (.single (Server.Step.serve _ [] [(.getXmlHttpRequestNumber, bareRequest)]
        .getFetchNumber bareRequest []))
      (Server.Step.serve _ [] [] .getXmlHttpRequestNumber bareRequest _)
  ⟨reach, by decide, Server.numbers_nodup_of_reachable reach (by decide)⟩

/-- From any server, the run that serves the requests in flight in order answers them
all. -/
theorem Server.reaches_all_answered (encode : RequestInfo → Json) :
    ∀ (pending : List (ApiEndpoint × ApiRequest)) (state : State) (answered : List Answer),
      ∃ server : Server, server.pending = [] ∧
        Relation.ReflTransGen (Server.Step encode) ⟨state, pending, answered⟩ server
  | [], state, answered => ⟨_, rfl, .refl⟩
  | (endpoint, req) :: rest, state, answered => by
    obtain ⟨server, done, run⟩ := Server.reaches_all_answered encode rest
      (endpoint.handler encode state req).2
      (answered ++ [⟨endpoint, req, (endpoint.handler encode state req).1⟩])
    exact ⟨server, done, .head (Server.Step.serve state [] rest endpoint req answered) run⟩

/-- A finished run answered the requests it started with, each once. -/
theorem Server.answered_perm_of_finished {server : Server}
    (reach : Server.Reachable encode start requests server) (finished : server.pending = []) :
    (server.answered.map fun answer => (answer.endpoint, answer.request)).Perm requests := by
  have conserved := (Server.ledger_start.trace reach).conserved
  rwa [finished, List.append_nil] at conserved

/-- **From every reachable server the run can answer everything, and a finished run
answered each request once.** Whatever the handlers have done so far, serving the
requests still in flight reaches a server with none in flight, which answered exactly
the requests the run started with; and a reachable server with none in flight has
answered each of them once, whichever order it served them in. -/
theorem Server.reachable_all_answered {server : Server}
    (reach : Server.Reachable encode start requests server) :
    (∃ finished : Server, Relation.ReflTransGen (Server.Step encode) server finished ∧
      finished.pending = [] ∧
      (finished.answered.map fun answer => (answer.endpoint, answer.request)).Perm requests) ∧
    (server.pending = [] →
      (server.answered.map fun answer => (answer.endpoint, answer.request)).Perm requests) := by
  obtain ⟨finished, done, run⟩ :=
    Server.reaches_all_answered encode server.pending server.state server.answered
  exact ⟨⟨finished, run, done, Server.answered_perm_of_finished (reach.trans run) done⟩,
    Server.answered_perm_of_finished reach⟩

/-- The server after the `GET` of `fetch` from the counter `41`, with a `POST` of
`fetch` still in flight. -/
def fetchInFlight : Server :=
  ⟨⟨42⟩, [(.postFetchNumber, bareRequest)],
    [⟨.getFetchNumber, bareRequest, numberJson emptyInfoJson 41 bareRequest⟩]⟩

theorem reachable_all_answered_in_flight :
    Server.Reachable emptyInfoJson ⟨41⟩
        [(.getFetchNumber, bareRequest), (.postFetchNumber, bareRequest)] fetchInFlight ∧
      (∃ finished : Server,
        Relation.ReflTransGen (Server.Step emptyInfoJson) fetchInFlight finished ∧
        finished.pending = [] ∧
        (finished.answered.map fun answer => (answer.endpoint, answer.request)).Perm
          [(.getFetchNumber, bareRequest), (.postFetchNumber, bareRequest)]) ∧
      (fetchInFlight.pending = [] →
        (fetchInFlight.answered.map fun answer => (answer.endpoint, answer.request)).Perm
          [(.getFetchNumber, bareRequest), (.postFetchNumber, bareRequest)]) :=
  have reach : Server.Reachable emptyInfoJson ⟨41⟩
      [(.getFetchNumber, bareRequest), (.postFetchNumber, bareRequest)] fetchInFlight :=
    .single (Server.Step.serve _ [] [(.postFetchNumber, bareRequest)] .getFetchNumber
      bareRequest [])
  ⟨reach, Server.reachable_all_answered reach⟩

end Ledger

end Rama.Fp
