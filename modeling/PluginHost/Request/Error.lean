import PluginHost.Text.Utf8

/-!
# Request errors

Why a request cannot be built, and why a part of it cannot be read as text.
-/

namespace PluginHost

/-- The parts of a request that may hold no NUL. -/
inductive Field where
  | method
  | uri
  | body
  | headerName
  | headerValue
  deriving DecidableEq, Repr

def Field.label : Field → String
  | method => "method"
  | uri => "uri"
  | body => "body"
  | headerName => "header name"
  | headerValue => "header value"

inductive RequestError where
  /-- The field has its first NUL at the position. -/
  | interiorNul (field : Field) (position : Nat)
  /-- The labelled part is not UTF-8; a header value bears its header's name. -/
  | invalidText (label : String) (fault : Text.Utf8.Fault)
  deriving DecidableEq, Repr

namespace RequestError

def message : RequestError → String
  | interiorNul field _ => s!"request {field.label} contains an interior NUL byte"
  | invalidText label _ => s!"request {label} is not valid UTF-8"

def cause : RequestError → String
  | interiorNul _ position => s!"nul byte found in provided data at position: {position}"
  | invalidText _ fault => fault.message

end RequestError

end PluginHost
