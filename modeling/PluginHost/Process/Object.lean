import PluginHost.FileTree.Basic
import PluginHost.Library.Image
import PluginHost.Library.Statements

/-!
# Objects

An object is a library, or the program, in a process: its names, the addresses it has taken, and
what it is bound to.
-/

namespace PluginHost

/-- The number of an object in its process. -/
abbrev ObjectId := Nat

/-- What each thread has for itself of an object. -/
structure ThreadPart where
  /-- Where the bytes stand with which it begins. -/
  image : UInt64
  imageLength : Nat
  /-- Where it is, and its length. -/
  address : UInt64
  length : Nat
  /-- Whether code relies on its distance from where the thread has what is its own. -/
  isFixed : Bool

/-- What an object is made from. -/
inductive Body where
  | image (statements : Statements) (thread : Option ThreadPart) (sealed : Option Library.Segment)
  | library (library : Library)

structure Object where
  id : ObjectId
  /-- The path at which it was found first. -/
  path : Bytes
  /-- All names by which it is known. -/
  names : List Bytes
  /-- The place of its file. -/
  place : Option Place
  base : UInt64
  /-- The first address that it has taken, and the number of addresses. -/
  first : UInt64
  length : UInt64
  body : Body
  /-- The object for which it was loaded. -/
  loader : Option ObjectId
  /-- The objects among whose groups its own references are looked for. -/
  roots : List ObjectId
  /-- What it needs itself; nothing is known of one whose needs have not been looked at. -/
  needs : Option (List ObjectId)
  /-- All objects among which its symbols are looked for when it is asked for one. -/
  group : List ObjectId
  /-- How often it has been opened by its name or path. -/
  openings : Nat
  /-- What it has been bound to beyond what it needs. -/
  bonds : List ObjectId
  /-- Whether everybody's references are looked for in it. -/
  isInitial : Bool
  stays : Bool
  isBound : Bool
  isStarted : Bool
  /-- Whether nothing is found in it any more. -/
  isRemoved : Bool

namespace Object

def holds (object : Object) (address : UInt64) : Bool := address - object.first < object.length

def statements (object : Object) : Statements :=
  match object.body with
  | .image statements .. => statements
  | .library _ => []

/-- The address for which a statement stands. -/
def stated? (object : Object) (tag : UInt64) : Option UInt64 :=
  (object.statements.last? tag).map (object.base + ·)

/-- A length that is stated. -/
def length? (object : Object) (tag : UInt64) : Nat :=
  ((object.statements.last? tag).getD 0).toNat

/-- The services of a library that is not stored stand at equal distances. -/
def serviceDistance : UInt64 := 16

/-- The address of the service with a number; none stands at the first address. -/
def serviceAddress (object : Object) (index : Nat) : UInt64 :=
  object.base + (index + 1).toUInt64 * serviceDistance

/-- The service at an address. -/
def service? (object : Object) (address : UInt64) : Option Service :=
  match object.body with
  | .image .. => none
  | .library library =>
      let distance := address - object.base
      if distance = 0 || distance % serviceDistance ≠ 0 then none
      else (library.exports[(distance / serviceDistance - 1).toNat]?).map Prod.snd

end Object

end PluginHost
