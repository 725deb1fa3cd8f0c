import PluginHost.Log.Event
import PluginHost.Request.Handle
import PluginHost.Sink.Basic

/-!
# Triggers

A trigger is called with a request handle. It prints on standard output, may report events, and
answers with a 32-bit status; zero stands for success.
-/

namespace PluginHost

/-- A standard output that takes everything, or one on which every write fails. -/
inductive Stdout where
  | accepting
  | failing (error : WriteError)
  deriving DecidableEq, Repr

namespace Stdout

def write (stdout : Stdout) (offered : Bytes) : Answer :=
  match stdout with
  | accepting => .accepted offered.length
  | failing error => .failed error

def sink (stdout : Stdout) : Sink Unit where
  write _ offered := (stdout.write offered, ())
  flush _ := (none, ())
  patience _ _ := 0
  patience_lt := by
    intro _ offered _ interrupted
    cases stdout <;> simp [write] at interrupted

end Stdout

structure Reply where
  status : Int32
  printed : Bytes
  events : List Log.Event
  deriving Repr

abbrev Trigger := Handle → Stdout → Reply

end PluginHost
