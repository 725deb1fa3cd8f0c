import PluginHost.Json.Encoding
import PluginHost.Text.Utf8

/-!
# JSON objects of strings

An object keeps its members in increasing order of their keys' UTF-8 bytes, one member for each key,
so objects with the same members have one written form.
-/

namespace PluginHost.Json

open PluginHost.Text

/-- Members with their keys, in increasing order. -/
structure Object where
  members : List (String × String)
  deriving DecidableEq, Repr

namespace Object

def empty : Object := ⟨[]⟩

/-- Put a member in its place; a member of the same key gives way. -/
def insertMember (key value : String) : List (String × String) → List (String × String)
  | [] => [(key, value)]
  | member :: rest =>
      if key = member.1 then (key, value) :: rest
      else if Utf8.encode key < Utf8.encode member.1 then (key, value) :: member :: rest
      else member :: insertMember key value rest

def insert (object : Object) (key value : String) : Object :=
  ⟨insertMember key value object.members⟩

def writeMember (member : String × String) : List Char :=
  writeString member.1 ++ ':' :: writeString member.2

/-- Members with commas between them. -/
def writeMembers : List (String × String) → List Char
  | [] => []
  | [member] => writeMember member
  | member :: next :: rest => writeMember member ++ ',' :: writeMembers (next :: rest)

def write (object : Object) : String :=
  String.ofList ('\x7b' :: writeMembers object.members ++ ['\x7d'])

end Object

end PluginHost.Json
