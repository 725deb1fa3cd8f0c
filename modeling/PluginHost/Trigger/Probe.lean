import PluginHost.Split
import PluginHost.Text.Utf8
import PluginHost.Trigger.Basic

/-!
# Probe triggers

Triggers that try out a host: some answer with a fixed status, the others with what they find in the
request.
-/

namespace PluginHost.Probe

open PluginHost.Text

/-- Print on a standard output that may refuse it. -/
def printed (stdout : Stdout) (bytes : Bytes) : Bytes :=
  match stdout with
  | .accepting => bytes
  | .failing _ => []

/-- A trigger that prints nothing and answers with the status. -/
def constant (status : Int32) : Trigger := fun _ _ => ⟨status, [], []⟩

/-- The address of a string constant. -/
def literal (text : String) : Pointer := .terminated (Utf8.encode text)

/-- Success for a `POST` whose content is declared to be JSON. -/
def jsonPost : Trigger := fun handle _ =>
  let isPost := (hostAccessors.method handle).string? == some (Utf8.encode "POST")
  let declared := (hostAccessors.header handle (literal "Content-Type")).string?
  ⟨if isPost && declared == some (Utf8.encode "application/json") then 0 else 3, [], []⟩

/-- The length of the URI less that of the method. -/
def lengths : Trigger := fun handle _ =>
  ⟨Int32.ofInt (handle.fields.uri.length - handle.fields.method.length : Int), [], []⟩

/-- The line for one header looked up: an equals sign and the value, or a hyphen. -/
def headerLine : Option Bytes → Bytes
  | some value => Bytes.equals :: value ++ [Bytes.lineFeed]
  | none => [Bytes.hyphen, Bytes.lineFeed]

/-- Look up the header named on each line of the body; the status is the number not found. -/
def headers : Trigger := fun handle stdout =>
  let found := (split Bytes.lineFeed handle.fields.body).map fun name =>
    (hostAccessors.header handle (.terminated name)).string?
  ⟨Int32.ofNat (found.countP Option.isNone), printed stdout (found.flatMap headerLine), []⟩

/-- The probes by name. -/
def all : List (String × Trigger) :=
  [("fixture_ok", constant 0), ("fixture_one", constant 1), ("fixture_neg", constant (-1)),
    ("fixture_256", constant 256), ("fixture_min", constant (-2147483648)),
    ("fixture_max", constant 2147483647), ("fixture_json_post", jsonPost),
    ("fixture_lengths", lengths), ("fixture_headers", headers)]

end PluginHost.Probe
