import PluginHost.Json.Object
import PluginHost.Request.Error
import PluginHost.Request.HeaderTable

/-!
# Requests

A request as the host owns it while a trigger runs: method, URI and body as bytes, and a table of
headers. Building refuses NUL bytes and keeps header names in small letters; reading as text refuses
what is not UTF-8.
-/

namespace PluginHost

open PluginHost.Text

structure Request where
  method : Bytes
  uri : Bytes
  headers : HeaderTable
  body : Bytes
  deriving Repr

namespace Request

/-- The bytes of a field, unless one of them is NUL. -/
def checkField (field : Field) (bytes : Bytes) : Except RequestError Bytes :=
  match Bytes.firstNul? bytes with
  | none => .ok bytes
  | some position => .error (.interiorNul field position)

/-- A request without headers. -/
def build (method uri body : Bytes) : Except RequestError Request := do
  let method ← checkField .method method
  let uri ← checkField .uri uri
  let body ← checkField .body body
  return ⟨method, uri, .empty, body⟩

/-- The bytes under which a header is kept. -/
def storedName (name : String) : Bytes := Bytes.lower (Utf8.encode name)

/-- Add a header, or give a new value to the header of that name. -/
def withHeader (request : Request) (name : String) (value : Bytes) :
    Except RequestError Request := do
  let name ← checkField .headerName (storedName name)
  let value ← checkField .headerValue value
  return { request with headers := request.headers.insert name value }

/-- Add headers in order, up to the first that is refused. -/
def withHeaders (request : Request) (headers : List (String × Bytes)) :
    Except RequestError Request :=
  headers.foldlM (fun request header => request.withHeader header.1 header.2) request

/-- The bytes as text. -/
def readText (label : String) (bytes : Bytes) : Except RequestError String :=
  (Utf8.decode bytes).mapError (.invalidText label)

def methodText (request : Request) : Except RequestError String :=
  readText Field.method.label request.method

def uriText (request : Request) : Except RequestError String :=
  readText Field.uri.label request.uri

def bodyText (request : Request) : Except RequestError String :=
  readText Field.body.label request.body

/-- The value of a header, if it is there and is text; a name with a NUL names no header. -/
def header? (request : Request) (name : String) : Option String := do
  let name ← (checkField .headerName (storedName name)).toOption
  let value ← request.headers.find? name
  Utf8.decode? value

def headerCount (request : Request) : Nat := request.headers.count

/-- Read one header as text and add it to the object. -/
def addMember (object : Json.Object) (entry : Bytes × Bytes) : Except RequestError Json.Object := do
  let name ← readText Field.headerName.label entry.1
  let value ← readText name entry.2
  return object.insert name value

/-- The object of the entries, taken in the order given. -/
def objectOf (entries : List (Bytes × Bytes)) : Except RequestError Json.Object :=
  entries.foldlM addMember .empty

/-- All headers as a JSON object, keyed by their stored names. -/
def headersJson (request : Request) : Except RequestError String :=
  (objectOf request.headers.entries).map Json.Object.write

/-- Equal fields and equal headers, in whatever order they were added. -/
def same (first second : Request) : Bool :=
  first.method == second.method && first.uri == second.uri && first.body == second.body &&
    first.headers.same second.headers

instance : BEq Request := ⟨same⟩

end Request

end PluginHost
