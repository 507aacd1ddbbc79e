import Mathlib.Init

/-!
# Layers, stacks and the HTTP server's service stack

A layer turns an inner service into a service that wraps it. `HttpServer` keeps the
layers added to it in a `ServiceBuilder`, and every combinator of the server
(`layer`, `timeout`, `filter`, `add_extension`, ...) adds one layer the same way:
the builder's layer becomes a `Stack` of the new layer inside the old one. When the
server is given its leaf service, the stack applies its inner layer first and its
outer layer to the result, so a layer added last wraps the leaf first
(`service_layer`).

`Stack`, `Identity` and `ServiceBuilder` live in a module that is not among the
sources; they are modelled from the spec's description of layer composition. The
connection builders of hyper that the server carries are kept as values the layers
never touch.
-/

set_option autoImplicit false

namespace Rama.Service

/-! ## Layers -/

/-- `Layer<S>`: a layer of type `L` turns a service `S` into a service `T`. -/
class Layer (L S : Type) (T : outParam Type) where
  layer : L → S → T

/-- Modelled from the spec: `Identity`, the layer that returns its inner service. -/
structure Identity where
  deriving DecidableEq

instance {S : Type} : Layer Identity S S := ⟨fun _ service => service⟩

/-- Modelled from the spec: `Stack<Inner, Outer>`, two layers of which `inner`
wraps the service first. -/
structure Stack (Inner Outer : Type) where
  inner : Inner
  outer : Outer

instance {Inner Outer S M T : Type} [Layer Inner S M] [Layer Outer M T] :
    Layer (Stack Inner Outer) S T :=
  ⟨fun stack service => Layer.layer stack.outer (Layer.layer stack.inner service)⟩

/-- Modelled from the spec: `ServiceBuilder<L>`, the layers added so far. -/
structure ServiceBuilder (L : Type) where
  layer : L

/-- `ServiceBuilder::new`: no layer. -/
def ServiceBuilder.new : ServiceBuilder Identity := ⟨{}⟩

/-- `ServiceBuilder::layer`: the new layer inside the ones added before. -/
def ServiceBuilder.layer' {L T : Type} (self : ServiceBuilder L) (layer : T) :
    ServiceBuilder (Stack T L) :=
  ⟨⟨layer, self.layer⟩⟩

/-- `ServiceBuilder::service`: the leaf service wrapped in every layer. -/
def ServiceBuilder.service {L S T : Type} [Layer L S T] (self : ServiceBuilder L)
    (service : S) : T :=
  Layer.layer self.layer service

/-! ## The server -/

/-- The HTTP/1 connection builder of hyper; its settings are outside the sources. -/
structure Http1ConnBuilder where
  deriving DecidableEq

/-- The HTTP/2 connection builder of hyper. -/
structure H2ConnBuilder where
  deriving DecidableEq

/-- The connection builder of hyper that serves both versions. -/
structure AutoConnBuilder where
  deriving DecidableEq

/-- `HttpServer<B, L>`: a connection builder and the layers of the service stack. -/
structure HttpServer (B L : Type) where
  builder : B
  serviceBuilder : ServiceBuilder L

/-- `HttpService<B, S>`: the connection builder and the wrapped service it serves each
connection with. -/
structure HttpService (B S : Type) where
  builder : B
  service : S

/-- `HttpServer::http1`. -/
def HttpServer.http1 : HttpServer Http1ConnBuilder Identity := ⟨{}, ServiceBuilder.new⟩

/-- `HttpServer::h2`. -/
def HttpServer.h2 : HttpServer H2ConnBuilder Identity := ⟨{}, ServiceBuilder.new⟩

/-- `HttpServer::auto`. -/
def HttpServer.auto : HttpServer AutoConnBuilder Identity := ⟨{}, ServiceBuilder.new⟩

/-- `HttpServer::layer`: add a layer to the service stack. -/
def HttpServer.layer {B L T : Type} (self : HttpServer B L) (layer : T) :
    HttpServer B (Stack T L) :=
  ⟨self.builder, self.serviceBuilder.layer' layer⟩

/-- `TimeoutLayer`, by the duration it allows, in nanoseconds. -/
structure TimeoutLayer where
  timeout : Nat

/-- `FilterLayer<P>`, by its predicate. -/
structure FilterLayer (P : Type) where
  predicate : P

/-- `AddExtensionLayer<T>`, by the value it adds. -/
structure AddExtensionLayer (T : Type) where
  value : T

/-- `HttpServer::timeout`. -/
def HttpServer.timeout {B L : Type} (self : HttpServer B L) (timeout : Nat) :
    HttpServer B (Stack TimeoutLayer L) :=
  self.layer ⟨timeout⟩

/-- `HttpServer::filter`. -/
def HttpServer.filter {B L P : Type} (self : HttpServer B L) (predicate : P) :
    HttpServer B (Stack (FilterLayer P) L) :=
  self.layer ⟨predicate⟩

/-- `HttpServer::add_extension`. -/
def HttpServer.addExtension {B L T : Type} (self : HttpServer B L) (value : T) :
    HttpServer B (Stack (AddExtensionLayer T) L) :=
  self.layer ⟨value⟩

/-- `HttpServer::service`: the connection builder with the leaf service wrapped in the
stack. -/
def HttpServer.service {B L S T : Type} [Layer L S T] (self : HttpServer B L) (service : S) :
    HttpService B T :=
  ⟨self.builder, self.serviceBuilder.service service⟩

/-! ## The order of the stack -/

section Order

variable {B L T S M R : Type}

/-- Adding a layer wraps the leaf in it before the layers added earlier. -/
theorem service_layer [Layer T S M] [Layer L M R] (server : HttpServer B L) (layer : T)
    (service : S) :
    (server.layer layer).service service = server.service (Layer.layer layer service) := rfl

end Order

end Rama.Service
