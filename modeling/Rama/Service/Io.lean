import Rama.Service.Context

/-!
# Errors, connections and the effects of a call

A call of an asynchronous service can fail with a boxed error, and the PROXY layer
writes to the connection it was handed. A call is therefore a program in
`EStateM BoxError Writes`, where `Writes` records the byte chunks handed to
`write_all`, one chunk a call, in call order. The record survives a failure: a
failed call shows what it wrote before it failed, so "no byte written" is a fact
about the record. How the peer answers a write is the stream's own behaviour, any
function of the bytes, so every statement here holds for every stream.

Errors keep their chain of context messages (`BoxError.context`), as the layer's
error strings are part of what a caller sees.
-/

set_option autoImplicit false

namespace Rama.Service

open Rama.Net

/-! ## Errors -/

/-- `std::io::Error`, by its message. -/
structure IoError where
  message : String
  deriving DecidableEq

/-- `BoxError`: an `OpaqueError` made from a displayed message, an I/O error, or an error with a
context message added by `ErrorContext::context`. -/
inductive BoxError where
  | fromDisplay (message : String)
  | io (error : IoError)
  | context (message : String) (source : BoxError)
  deriving DecidableEq

/-- The message a caller reads first: the outermost context, or the error's own. -/
def BoxError.message : BoxError → String
  | .fromDisplay message => message
  | .io error => error.message
  | .context message _ => message

/-! ## The effects of a call -/

/-- The chunks handed to `write_all`, in call order. -/
abbrev Writes := List (List UInt8)

/-- A call that may fail and may write to the connection. -/
abbrev IoM := EStateM BoxError Writes

/-- `?` on a result: its value, or its error. -/
def IoM.ofExcept {α : Type} : Except BoxError α → IoM α
  | .ok value => pure value
  | .error error => throw error

/-- `ErrorContext::context` on an awaited call. -/
def IoM.context {α : Type} (call : IoM α) (message : String) : IoM α := fun writes =>
  match call writes with
  | .ok value writes => .ok value writes
  | .error error writes => .error (.context message error) writes

section RunLemmas

variable {α β : Type}

/-- Running a call is applying it to the writes so far. -/
theorem IoM.run_apply (call : IoM α) (writes : Writes) : call.run writes = call writes := rfl

theorem IoM.run_bind (call : IoM α) (next : α → IoM β) (writes : Writes) :
    (call >>= next).run writes =
      match call.run writes with
      | .ok value writes => (next value).run writes
      | .error error writes => .error error writes := by
  show EStateM.bind call next writes = _
  simp only [EStateM.bind, IoM.run_apply]
  cases call writes <;> rfl

@[simp] theorem IoM.ofExcept_ok (value : α) : IoM.ofExcept (.ok value) = pure value := rfl

end RunLemmas

/-! ## Connections -/

/-- The byte stream under a connection: how its peer answers a `write_all` of the
given bytes. -/
structure Stream where
  writeAll : List UInt8 → Except IoError Unit

/-- `ClientConnection`: the address the connection reached and its stream. -/
structure ClientConnection where
  addr : SocketAddr
  stream : Stream

/-- `AsyncWriteExt::write_all`: hand the whole buffer to the stream. -/
def ClientConnection.writeAll (conn : ClientConnection) (buf : List UInt8) : IoM Unit :=
  fun writes =>
    match conn.stream.writeAll buf with
    | .ok () => .ok () (writes ++ [buf])
    | .error error => .error (.io error) (writes ++ [buf])

/-- `EstablishedClientConnection`: what a connecting service returns. -/
structure EstablishedClientConnection (State Req : Type) where
  ctx : Context State
  req : Req
  conn : ClientConnection

/-! ## One write, then a result -/

/-- The writes a finished call leaves, whether it returned or failed. -/
def written {α : Type} : EStateM.Result BoxError Writes α → Writes
  | .ok _ writes => writes
  | .error _ writes => writes

@[simp] theorem written_ok {α : Type} (value : α) (writes : Writes) :
    written (.ok value writes : EStateM.Result BoxError Writes α) = writes := rfl

@[simp] theorem written_error {α : Type} (error : BoxError) (writes : Writes) :
    written (.error error writes : EStateM.Result BoxError Writes α) = writes := rfl

/-- What a call leaves when its last effect is one `write_all` of `bytes` under a
context message and it then returns `result`: the bytes are recorded whatever the
stream answers, and the call fails exactly when the stream refuses them. -/
def writeOutcome {α : Type} (conn : ClientConnection) (bytes : List UInt8) (message : String)
    (result : α) (writes : Writes) : EStateM.Result BoxError Writes α :=
  match conn.stream.writeAll bytes with
  | .ok () => .ok result (writes ++ [bytes])
  | .error error => .error (.context message (.io error)) (writes ++ [bytes])

theorem ClientConnection.run_writeAll_context_pure {α : Type} (conn : ClientConnection)
    (bytes : List UInt8) (message : String) (result : α) (writes : Writes) :
    ((conn.writeAll bytes).context message >>= fun _ => pure result : IoM α).run writes =
      writeOutcome conn bytes message result writes := by
  rw [IoM.run_bind]
  simp only [IoM.context, ClientConnection.writeAll, IoM.run_apply, writeOutcome]
  cases conn.stream.writeAll bytes <;> rfl

@[simp] theorem written_writeOutcome {α : Type} (conn : ClientConnection) (bytes : List UInt8)
    (message : String) (result : α) (writes : Writes) :
    written (writeOutcome conn bytes message result writes) = writes ++ [bytes] := by
  unfold writeOutcome
  cases conn.stream.writeAll bytes <;> rfl

/-- A `write_all` records its buffer, whatever the stream answers. -/
theorem ClientConnection.written_writeAll (conn : ClientConnection) (buf : List UInt8)
    (writes : Writes) : written ((conn.writeAll buf).run writes) = writes ++ [buf] := by
  rw [IoM.run_apply, ClientConnection.writeAll]
  cases conn.stream.writeAll buf <;> rfl

/-- A call that ends in one write returns its result after recording the write. -/
theorem writeOutcome_eq_ok {α : Type} {conn : ClientConnection} {bytes : List UInt8}
    {message : String} {result value : α} {writes after : Writes}
    (returned : writeOutcome conn bytes message result writes = .ok value after) :
    value = result ∧ after = writes ++ [bytes] := by
  unfold writeOutcome at returned
  split at returned
  · cases returned
    exact ⟨rfl, rfl⟩
  · cases returned

/-- A call that ends in one write never fails without writing. -/
@[simp] theorem writeOutcome_ne_error {α : Type} (conn : ClientConnection) (bytes : List UInt8)
    (message : String) (result : α) (writes : Writes) (error : BoxError) :
    writeOutcome conn bytes message result writes ≠ .error error writes := by
  intro failed
  simpa using congrArg written failed

/-- A call that ends in one write fails only with the stream's error under its
context message. -/
theorem message_of_writeOutcome_eq_error {α : Type} {conn : ClientConnection}
    {bytes : List UInt8} {message : String} {result : α} {writes after : Writes}
    {error : BoxError}
    (failed : writeOutcome conn bytes message result writes = .error error after) :
    error.message = message := by
  unfold writeOutcome at failed
  split at failed
  · cases failed
  · cases failed
    rfl

end Rama.Service

/-- `ErrorContext::context` on a fallible result. -/
def Except.context {α : Type} (result : Except Rama.Service.IoError α) (message : String) :
    Except Rama.Service.BoxError α :=
  match result with
  | .ok value => .ok value
  | .error cause => .error (.context message (.io cause))

@[simp] theorem Except.context_ok {α : Type} (value : α) (message : String) :
    (Except.ok value : Except Rama.Service.IoError α).context message = .ok value := rfl
