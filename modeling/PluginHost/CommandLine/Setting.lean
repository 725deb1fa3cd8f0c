import PluginHost.Header
import PluginHost.Text.Utf8

/-!
# Settings

The options of the command line that take a value, their names, and the values they accept.
-/

namespace PluginHost.CommandLine

inductive Setting where
  | plugin
  | symbol
  | method
  | uri
  | header
  | body
  | bodyFile
  deriving DecidableEq, Repr

namespace Setting

def all : List Setting := [plugin, symbol, method, uri, header, body, bodyFile]

/-- The name after two hyphens. -/
def name : Setting → String
  | plugin => "plugin"
  | symbol => "symbol"
  | method => "method"
  | uri => "uri"
  | header => "header"
  | body => "body"
  | bodyFile => "body-file"

/-- The letter after one hyphen. -/
def letter? : Setting → Option Char
  | method => some 'X'
  | header => some 'H'
  | _ => none

/-- What stands for the value in messages. -/
def placeholder : Setting → String
  | plugin => "PLUGIN"
  | symbol => "SYMBOL"
  | method => "METHOD"
  | uri => "URI"
  | header => "HEADERS"
  | body => "BODY"
  | bodyFile => "BODY_FILE"

def shown (setting : Setting) : String := s!"--{setting.name} <{setting.placeholder}>"

/-- Only headers may be given more than once. -/
def mayRepeat (setting : Setting) : Bool := setting = header

def ofName? (name : String) : Option Setting := all.find? (·.name = name)

def ofLetter? (letter : Char) : Option Setting := all.find? (·.letter? = some letter)

end Setting

/-- A setting with an accepted value. -/
inductive Given where
  | plugin (path : Bytes)
  | symbol (name : String)
  | method (text : String)
  | uri (text : String)
  | header (header : Header)
  | body (text : String)
  | bodyFile (path : Bytes)
  deriving DecidableEq, Repr

def Given.setting : Given → Setting
  | plugin _ => .plugin
  | symbol _ => .symbol
  | method _ => .method
  | uri _ => .uri
  | header _ => .header
  | body _ => .body
  | bodyFile _ => .bodyFile

end PluginHost.CommandLine
