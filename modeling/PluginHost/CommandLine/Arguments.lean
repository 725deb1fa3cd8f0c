import PluginHost.CommandLine.Parser
import PluginHost.FileTree.Basic
import PluginHost.Request.Basic

/-!
# Arguments

What a command line asks for, with defaults in the place of what it leaves open, and the request
that it describes.
-/

namespace PluginHost

open PluginHost.Text

structure Arguments where
  plugin : Bytes
  symbol : String
  method : String
  uri : String
  headers : List Header
  body : Option String
  bodyFile : Option Bytes
  deriving DecidableEq, Repr

/-- Why no request can be built from arguments. -/
inductive BuildError where
  | bodyFile (path : Bytes) (error : IoError)
  | request (error : RequestError)
  deriving DecidableEq, Repr

namespace BuildError

def message : BuildError → String
  | bodyFile path _ => s!"failed to read body file {Utf8.lossy path}"
  | request error => error.message

def cause : BuildError → String
  | bodyFile _ error => error.text
  | request error => error.cause

end BuildError

namespace Arguments

open CommandLine (Given Stop Presets)

/-- The arguments before any value is given, for a plugin. -/
def ofPlugin (path : Bytes) : Arguments := ⟨path, "trigger", "GET", "/", [], none, none⟩

def put (arguments : Arguments) : Given → Arguments
  | .plugin path => { arguments with plugin := path }
  | .symbol name => { arguments with symbol := name }
  | .method text => { arguments with method := text }
  | .uri text => { arguments with uri := text }
  | .header header => { arguments with headers := arguments.headers ++ [header] }
  | .body text => { arguments with body := some text }
  | .bodyFile path => { arguments with bodyFile := some path }

def ofGiven (given : List Given) : Arguments := given.foldl put (ofPlugin [])

/-- Read the arguments that follow the program's name. -/
def parse (presets : Presets) (arguments : List Bytes) : Except Stop Arguments :=
  (CommandLine.read presets arguments).map ofGiven

/-- The bytes of the body. A body given as text comes before one in a file. -/
def bodyBytes (arguments : Arguments) (files : FileTree) : Except BuildError Bytes :=
  match arguments.body, arguments.bodyFile with
  | some text, _ => .ok (Utf8.encode text)
  | none, some path => (files.readFile path).mapError (.bodyFile path)
  | none, none => .ok []

/-- Build the request. The body file is read before anything is checked. -/
def request (arguments : Arguments) (files : FileTree) : Except BuildError Request := do
  let body ← arguments.bodyBytes files
  let headers := arguments.headers.map fun header => (header.name, Utf8.encode header.value)
  (do
    let request ←
      Request.build (Utf8.encode arguments.method) (Utf8.encode arguments.uri) body
    request.withHeaders headers).mapError .request

end Arguments

end PluginHost
