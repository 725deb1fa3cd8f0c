import PluginHost.Bytes
import PluginHost.Text.Utf8

/-!
# Environments

The variables of a run. A program finds each of them as a string: the name, an equals sign, and the
value.
-/

namespace PluginHost

open PluginHost.Text

/-- Environment variables by name. -/
abbrev Environment := List (String × Bytes)

namespace Environment

def find? (environment : Environment) (name : String) : Option Bytes := environment.lookup name

/-- What comes before the value of a variable. -/
def start (name : Bytes) : Bytes := name ++ [Bytes.equals]

def strings (environment : Environment) : List Bytes :=
  environment.map fun entry => start (Utf8.encode entry.1) ++ entry.2

/-- What follows a name and an equals sign in the first string that begins with them. Nothing bears
the empty name. -/
def value? (environment : Environment) (name : Bytes) : Option Bytes :=
  if name = [] then none
  else (environment.strings.find? (start name).isPrefixOf).map (·.drop (start name).length)

end Environment

end PluginHost
