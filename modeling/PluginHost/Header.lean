import PluginHost.Text.Blank
import PluginHost.Text.Quoted

/-!
# Header arguments

The text form `Name: value` of a header. The first colon divides; blanks around name and value do
not count; the name is not empty.
-/

namespace PluginHost

structure Header where
  name : String
  value : String
  deriving DecidableEq, Repr

/-- The text that is no header. -/
structure InvalidHeader where
  raw : String
  deriving DecidableEq, Repr

def InvalidHeader.message (error : InvalidHeader) : String :=
  s!"invalid header {Text.Quoted.quote error.raw}: expected `Name: value`"

namespace Header

open Text.Blank (trim)

/-- The parts before and after the first colon. -/
def splitColon? (text : List Char) : Option (List Char × List Char) :=
  match text.dropWhile (· != ':') with
  | [] => none
  | _ :: value => some (text.takeWhile (· != ':'), value)

def parse (raw : String) : Except InvalidHeader Header :=
  match splitColon? raw.toList with
  | none => .error ⟨raw⟩
  | some (name, value) =>
      if (trim name).isEmpty then .error ⟨raw⟩
      else .ok ⟨String.ofList (trim name), String.ofList (trim value)⟩

end Header

end PluginHost
