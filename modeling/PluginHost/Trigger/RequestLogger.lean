import PluginHost.Trigger.Basic

/-!
# The request logger

A trigger that writes method, URI and body, one after the other, each with a line feed behind it,
and always succeeds. A write that fails is reported and has no other effect.
-/

namespace PluginHost.RequestLogger

variable {σ : Type}

/-- The byte strings to write, in order. -/
def parts (fields : Fields) : List Bytes :=
  [fields.method, [Bytes.lineFeed], fields.uri, [Bytes.lineFeed], fields.body, [Bytes.lineFeed]]

/-- Write all parts and flush once; the first error ends the attempt. -/
def writeRequest (sink : Sink σ) (state : σ) (fields : Fields) :
    Except IoError Unit × Session σ :=
  match (Session.start state).writeEach sink (parts fields) with
  | (.ok (), session) => session.flush sink
  | (.error error, session) => (.error error, session)

/-- The end of an echo: its status, its reports, and the session with the sink. -/
structure Echo (σ : Type) where
  status : Int32
  warnings : List Log.Event
  session : Session σ

/-- Write a request; failure to do so is only reported. -/
def echo (sink : Sink σ) (state : σ) (fields : Fields) : Echo σ :=
  match writeRequest sink state fields with
  | (.ok (), session) => ⟨0, [], session⟩
  | (.error error, session) => ⟨0, [.writeFailed error], session⟩

def trigger : Trigger := fun handle stdout =>
  let done := echo stdout.sink () handle.fields
  ⟨done.status, done.session.taken, .triggerInvoked :: done.warnings⟩

end PluginHost.RequestLogger
