import PluginHost.Request.Basic

/-!
# Request handles

What a trigger holds of a request: a handle that may be null, and accessors that answer with the
address of a string that a NUL ends. An address is modelled by the memory it points to.
-/

namespace PluginHost

/-- The memory from an address on, or nothing for the null address. -/
abbrev Pointer := Option Bytes

/-- A request lent to a trigger; it may be null. -/
abbrev Handle := Option Request

namespace Pointer

/-- The memory of a string and the NUL that ends it. -/
def terminated (bytes : Bytes) : Pointer := some (bytes ++ [0])

/-- The string at an address. -/
def string? (pointer : Pointer) : Option Bytes := pointer.map Bytes.untilNul

end Pointer

namespace Handle

def method (handle : Handle) : Pointer := handle.bind (Pointer.terminated ·.method)

def uri (handle : Handle) : Pointer := handle.bind (Pointer.terminated ·.uri)

def body (handle : Handle) : Pointer := handle.bind (Pointer.terminated ·.body)

/-- The value of the header that the string at `key` names. -/
def header (handle : Handle) (key : Pointer) : Pointer := do
  let request ← handle
  let key ← key.string?
  let name ← (Request.checkField .headerName (Bytes.lower key)).toOption
  let value ← request.headers.find? name
  Pointer.terminated value

end Handle

/-- The accessors a host hands to its triggers. -/
structure Accessors where
  method : Handle → Pointer
  uri : Handle → Pointer
  header : Handle → Pointer → Pointer
  body : Handle → Pointer

def hostAccessors : Accessors := ⟨Handle.method, Handle.uri, Handle.header, Handle.body⟩

/-- The fields of a request as a trigger reads them. -/
structure Fields where
  method : Bytes
  uri : Bytes
  body : Bytes
  deriving DecidableEq, Repr

/-- Read each field through its accessor; a null address reads as no bytes. -/
def Handle.fields (handle : Handle) : Fields :=
  ⟨handle.method.string?.getD [], handle.uri.string?.getD [], handle.body.string?.getD []⟩

end PluginHost
