import Rama.Service.Context

/-!
# Classifying the user agent of a request

`UserAgentClassifier` reads the `User-Agent` header of a request and, if a header
name for overwrites is configured, the first value of that header, parsed as
`UserAgentOverwrites`. An overwrite's `ua` replaces the header's user agent; its
HTTP agent, TLS agent and header setting are then set on whatever user agent there
is. The result, if any, is inserted in the context, and the inner service is called
once, with that context and the request as it came.

How the typed `User-Agent` header decodes (`typed_get` with the `headers` crate, then
`to_string`) and how `serde_html_form` reads overwrites are behaviour of crates that
are not among the sources; they are parameters here (`Decoders`), so every statement
holds for every decoder.

The spec's description is `classifiedUserAgent`: the base text is the overwrite's
`ua`, else the header's, and the inserted user agent is `UserAgent::new` of it with
exactly the fields the overwrite sets. The classifier computes it
(`applyOverwrites_eq_classifiedUserAgent`), and so calls the inner service with a
context that depends on the request only through the `User-Agent` values and the
first value of the overwrite header (`serve_eq_inner_classified`).

Stacked, two classifier layers do not combine what they classify: the inner layer's
insert replaces the outer one's, so the service sees the inner layer's user agent,
and the outer layer's, with its overwrites, only when the inner layer finds none
(`serve_stacked`).
-/

set_option autoImplicit false

namespace Rama.Http

open Rama.Service

/-! ## Requests -/

/-- `HeaderName`, in its lowercase text. -/
abbrev HeaderName := String

/-- `HeaderValue`, by its bytes. -/
abbrev HeaderValue := List UInt8

/-- `HeaderMap`: the fields of a request in order; a name may occur more than once. -/
abbrev HeaderMap := List (HeaderName × HeaderValue)

/-- `header::USER_AGENT`. -/
def USER_AGENT : HeaderName := "user-agent"

/-- `HeaderMap::get`: the first value of a name. -/
def HeaderMap.get (headers : HeaderMap) (name : HeaderName) : Option HeaderValue :=
  (headers.find? (·.1 = name)).map (·.2)

/-- `HeaderMap::get_all`: every value of a name, in order. -/
def HeaderMap.getAll (headers : HeaderMap) (name : HeaderName) : List HeaderValue :=
  (headers.filter (·.1 = name)).map (·.2)

/-- `Request<Body>`, through its headers; the body is passed on untouched. -/
structure Request (Body : Type) where
  headers : HeaderMap
  body : Body

/-- The decoders the classifier takes from other crates: the typed `User-Agent`
header, as text, from the values of that name, and `UserAgentOverwrites` from the
bytes of one value. -/
structure Decoders where
  userAgent : List HeaderValue → Option String
  overwrites : HeaderValue → Option UserAgentOverwrites

/-! ## The classifier -/

/-- `UserAgentClassifier<S>`. -/
structure UserAgentClassifier (S : Type) where
  inner : S
  overwriteHeader : Option HeaderName

/-- `UserAgentClassifier::new`. -/
def UserAgentClassifier.new {S : Type} (inner : S) (overwriteHeader : Option HeaderName) :
    UserAgentClassifier S :=
  ⟨inner, overwriteHeader⟩

/-- `UserAgentClassifierLayer`. -/
structure UserAgentClassifierLayer where
  overwriteHeader : Option HeaderName

/-- `UserAgentClassifierLayer::new`. -/
def UserAgentClassifierLayer.new : UserAgentClassifierLayer := ⟨none⟩

/-- `UserAgentClassifierLayer::overwrite_header`. -/
def UserAgentClassifierLayer.overwriteHeader' (_ : UserAgentClassifierLayer)
    (header : HeaderName) : UserAgentClassifierLayer :=
  ⟨some header⟩

/-- `UserAgentClassifierLayer::set_overwrite_header`. -/
def UserAgentClassifierLayer.setOverwriteHeader (_ : UserAgentClassifierLayer)
    (header : HeaderName) : UserAgentClassifierLayer :=
  ⟨some header⟩

/-- `Layer::layer`. -/
def UserAgentClassifierLayer.layer {S : Type} (self : UserAgentClassifierLayer) (inner : S) :
    UserAgentClassifier S :=
  UserAgentClassifier.new inner self.overwriteHeader

/-- The body of `if let Some(ref mut ua)` in `serve`: set the agents and the header
setting an overwrite carries. -/
def setOverwrites (overwrites : UserAgentOverwrites) (ua : UserAgent) : UserAgent :=
  let ua := match overwrites.http with
    | some httpAgent => ua.withHttpAgent httpAgent
    | none => ua
  let ua := match overwrites.tls with
    | some tlsAgent => ua.withTlsAgent tlsAgent
    | none => ua
  match overwrites.preserveUa with
  | some preserveUa => ua.withPreserveUaHeader preserveUa
  | none => ua

/-- The body of `if let Some(overwrites)` in `serve`: an overwrite's `ua` replaces the
user agent, then its other fields are set on the user agent, if any. -/
def applyOverwrites (overwrites : UserAgentOverwrites) (userAgent : Option UserAgent) :
    Option UserAgent :=
  let userAgent := match overwrites.ua with
    | some ua => some (UserAgent.new ua)
    | none => userAgent
  userAgent.map (setOverwrites overwrites)

/-- `Service::serve` of `UserAgentClassifier<S>`. -/
def UserAgentClassifier.serve {State Body Response : Type} (decoders : Decoders)
    (self : UserAgentClassifier (Context State → Request Body → Response))
    (ctx : Context State) (req : Request Body) : Response :=
  let userAgent := (decoders.userAgent (req.headers.getAll USER_AGENT)).map UserAgent.new
  let userAgent :=
    match (self.overwriteHeader.bind req.headers.get).bind decoders.overwrites with
    | some overwrites => applyOverwrites overwrites userAgent
    | none => userAgent
  match userAgent with
  | some ua => self.inner (ctx.insert ua) req
  | none => self.inner ctx req

/-! ## What the classifier inserts -/

/-- The user agent the spec describes, from the decoded header and the overwrites:
`UserAgent::new` of the overwrite's `ua`, else of the header, with the fields the
overwrite sets, and nothing when there is no base text. -/
def classifiedUserAgent (header : Option String) (overwrites : Option UserAgentOverwrites) :
    Option UserAgent :=
  ((overwrites.bind (·.ua)) <|> header).map fun base =>
    { UserAgent.new base with
      httpAgentOverwrite := (overwrites.bind (·.http)) <|> (UserAgent.new base).httpAgentOverwrite
      tlsAgentOverwrite := (overwrites.bind (·.tls)) <|> (UserAgent.new base).tlsAgentOverwrite
      preserveUaHeader :=
        (overwrites.bind (·.preserveUa)).getD (UserAgent.new base).preserveUaHeader }

/-- Setting an overwrite's fields sets exactly those that are present. -/
theorem setOverwrites_eq (overwrites : UserAgentOverwrites) (ua : UserAgent) :
    setOverwrites overwrites ua =
      { ua with
        httpAgentOverwrite := overwrites.http <|> ua.httpAgentOverwrite
        tlsAgentOverwrite := overwrites.tls <|> ua.tlsAgentOverwrite
        preserveUaHeader := overwrites.preserveUa.getD ua.preserveUaHeader } := by
  obtain ⟨_, http, tls, preserveUa⟩ := overwrites
  cases http <;> cases tls <;> cases preserveUa <;> rfl

/-- The classifier's handling of overwrites computes the spec's user agent. -/
theorem applyOverwrites_eq_classifiedUserAgent (header : Option String)
    (overwrites : Option UserAgentOverwrites) :
    (match overwrites with
      | some overwrites => applyOverwrites overwrites (header.map UserAgent.new)
      | none => header.map UserAgent.new) = classifiedUserAgent header overwrites := by
  rcases overwrites with _ | overwrites
  · cases header <;> rfl
  · obtain ⟨ua, http, tls, preserveUa⟩ := overwrites
    cases ua <;> cases header <;>
      simp only [applyOverwrites, classifiedUserAgent, Option.some_bind, Option.map_some',
        Option.map_none', setOverwrites_eq] <;> rfl

/-! ## Serving -/

section Serve

variable {State Body Response : Type}

/-- Inserting a user agent if there is one changes the user agent slot only. -/
theorem inner_insert_orElse (inner : Context State → Request Body → Response)
    (ctx : Context State) (userAgent : Option UserAgent) (req : Request Body) :
    inner { ctx with extensions :=
        { ctx.extensions with userAgent := userAgent <|> ctx.extensions.userAgent } } req =
      match userAgent with
      | some ua => inner (ctx.insert ua) req
      | none => inner ctx req := by
  cases userAgent <;> rfl

/-- **The classifier calls its inner service once, with the request as it came and
the classified context.** The inserted user agent is `UserAgent::new` of the
overwrite's `ua`, else of the `User-Agent` header, with exactly the agents and header
setting the overwrite carries; with no base text the context is passed on as it
came. The context depends on the request only through its `User-Agent` values and
the first value of the overwrite header. -/
theorem serve_eq_inner_classified (decoders : Decoders)
    (self : UserAgentClassifier (Context State → Request Body → Response))
    (ctx : Context State) (req : Request Body) :
    self.serve decoders ctx req =
      self.inner { ctx with extensions := { ctx.extensions with
        userAgent := classifiedUserAgent (decoders.userAgent (req.headers.getAll USER_AGENT))
          ((self.overwriteHeader.bind req.headers.get).bind decoders.overwrites) <|>
          ctx.extensions.userAgent } } req := by
  rw [inner_insert_orElse self.inner, ← applyOverwrites_eq_classifiedUserAgent]
  rfl

/-- The user agent a classifier layer makes of a request: `classifiedUserAgent` of the
decoded `User-Agent` header and of the overwrites its header carries. -/
def UserAgentClassifierLayer.classify (decoders : Decoders) (self : UserAgentClassifierLayer)
    (req : Request Body) : Option UserAgent :=
  classifiedUserAgent (decoders.userAgent (req.headers.getAll USER_AGENT))
    ((self.overwriteHeader.bind req.headers.get).bind decoders.overwrites)

/-- A classifier layer calls its inner service with the user agent it classifies
inserted, or with the context as it came when it classifies none. -/
theorem UserAgentClassifierLayer.serve_layer (decoders : Decoders)
    (self : UserAgentClassifierLayer) (inner : Context State → Request Body → Response)
    (ctx : Context State) (req : Request Body) :
    (self.layer inner).serve decoders ctx req =
      inner { ctx with extensions := { ctx.extensions with
        userAgent := self.classify decoders req <|> ctx.extensions.userAgent } } req := by
  rw [inner_insert_orElse inner, UserAgentClassifierLayer.classify,
    ← applyOverwrites_eq_classifiedUserAgent]
  rfl

/-- **Of two stacked classifiers, the one nearest the service decides.** With a
classifier layer inside another, the inner service sees the user agent the inner layer
classifies; the outer layer's survives only when the inner layer finds none, and the
context's own only when neither does. -/
theorem serve_stacked (decoders : Decoders) (outer inner : UserAgentClassifierLayer)
    (leaf : Context State → Request Body → Response) (ctx : Context State) (req : Request Body) :
    (outer.layer fun ctx req => (inner.layer leaf).serve decoders ctx req).serve decoders ctx req =
      leaf { ctx with extensions := { ctx.extensions with
        userAgent := inner.classify decoders req <|> outer.classify decoders req <|>
          ctx.extensions.userAgent } } req := by
  rw [UserAgentClassifierLayer.serve_layer, UserAgentClassifierLayer.serve_layer]

end Serve

end Rama.Http
