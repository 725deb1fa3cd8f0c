import PluginHost.IoError
import PluginHost.Log.Level
import PluginHost.Text.Quoted
import PluginHost.Text.Utf8

/-!
# Log events

What a run can report, with the level, the target and the line of each report.
-/

namespace PluginHost.Log

open PluginHost.Text

/-- The two programs that report: the runner, and the plugin that logs requests. -/
inductive Side where
  | runner
  | plugin
  deriving DecidableEq, Repr

inductive Event where
  | requestBuilt (method uri : String) (headers : Nat)
  | symbolResolved (plugin : Bytes) (symbol : String)
  | pluginLoaded (plugin : Bytes) (symbol : String)
  | triggerInvoked
  | writeFailed (error : IoError)
  | triggerCompleted
  deriving DecidableEq, Repr

namespace Event

def side : Event → Side
  | triggerInvoked | writeFailed _ => .plugin
  | _ => .runner

def level : Event → Level
  | requestBuilt .. | symbolResolved .. => .debug
  | pluginLoaded .. | triggerCompleted => .info
  | triggerInvoked => .trace
  | writeFailed _ => .warn

def target : Event → String
  | symbolResolved .. => "trigger_runner::plugin"
  | triggerInvoked | writeFailed _ => "request_logger"
  | _ => "trigger_runner"

/-- The names of the fields that an event carries. -/
def fieldNames : Event → List String
  | requestBuilt .. => ["message", "method", "uri", "headers"]
  | symbolResolved .. | pluginLoaded .. => ["message", "plugin", "symbol"]
  | triggerInvoked => ["message", "request"]
  | writeFailed _ => ["message", "error"]
  | triggerCompleted => ["message", "status"]

/-- The message and the fields after it. The address of a request is not told. -/
def text : Event → String
  | requestBuilt method uri headers =>
      s!"built request method={method} uri={uri} headers={headers}"
  | symbolResolved plugin symbol =>
      s!"resolved trigger symbol plugin={Utf8.lossy plugin} symbol={Quoted.quote symbol}"
  | pluginLoaded plugin symbol =>
      s!"loaded trigger plugin plugin={Utf8.lossy plugin} symbol={symbol}"
  | triggerInvoked => "trigger invoked request=<ptr>"
  | writeFailed error => s!"failed to write request to stdout error={error.text}"
  | triggerCompleted => "trigger completed status=0"

def line (event : Event) : String :=
  s!"{event.level.label} {event.target}: {event.text}\n"

end Event

end PluginHost.Log
