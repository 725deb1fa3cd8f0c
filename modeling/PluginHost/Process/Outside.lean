import PluginHost.Environment
import PluginHost.Trigger.Basic

/-!
# The outside of a process

What leaves a process: bytes on standard output, and on standard error reports and other text. What
the C library is to print waits in a store of its own until that is full or the process ends. The
code in a process may also ask for something that comes from outside; what it has asked is kept.
-/

namespace PluginHost

/-- What appears on standard error. -/
inductive Notice where
  | event (event : Log.Event)
  | text (bytes : Bytes)
  deriving DecidableEq, Repr

/-- What the code in a process may ask the outside for. -/
inductive Question where
  /-- What comes of printing something. -/
  | output
  /-- The value of a variable. -/
  | variable (name : Bytes)
  /-- All variables. -/
  | environment
  deriving DecidableEq, Repr

structure Outside where
  stdout : Stdout
  environment : Environment
  /-- The bytes that standard output has taken, last first. -/
  taken : Bytes
  /-- What has been told, last first. -/
  told : List Notice
  /-- What waits to be printed, last first. -/
  waiting : Bytes
  /-- What has been asked for, last first. -/
  asked : List Question

namespace Outside

def initial (stdout : Stdout) (environment : Environment) : Outside :=
  ⟨stdout, environment, [], [], [], []⟩

def printed (outside : Outside) : Bytes := outside.taken.reverse

def notices (outside : Outside) : List Notice := outside.told.reverse

/-- The bytes that have been printed since an earlier time. -/
def printedSince (outside earlier : Outside) : Bytes :=
  (outside.taken.take (outside.taken.length - earlier.taken.length)).reverse

/-- Print bytes at once, if standard output takes them. -/
def print (outside : Outside) (bytes : Bytes) : Outside :=
  match outside.stdout with
  | .accepting => { outside with taken := bytes.reverse ++ outside.taken }
  | .failing _ => outside

def tell (outside : Outside) (notice : Notice) : Outside :=
  { outside with told := notice :: outside.told }

def ask (outside : Outside) (question : Question) : Outside :=
  { outside with asked := question :: outside.asked }

/-- Take over what a trigger has done. -/
def follow (outside : Outside) (reply : Reply) : Outside :=
  let outside := { outside with taken := reply.printed.reverse ++ outside.taken }
  reply.events.foldl (fun outside event => outside.tell (.event event)) outside

/-- So many bytes wait at most. -/
def storeLength : Nat := 4096

def flush (outside : Outside) : Outside :=
  { outside.print outside.waiting.reverse with waiting := [] }

/-- Let bytes wait. When the store is full, it is printed, and of bytes that are too many for it the
whole stores are printed with it. -/
def wait (outside : Outside) (bytes : Bytes) : Outside :=
  let room := storeLength - outside.waiting.length
  if bytes.length ≤ room then { outside with waiting := bytes.reverse ++ outside.waiting }
  else
    let filled := { outside with waiting := (bytes.take room).reverse ++ outside.waiting }
    let rest := bytes.drop room
    let whole := rest.length / storeLength * storeLength
    let outside := filled.flush.print (rest.take whole)
    { outside with waiting := (rest.drop whole).reverse }

end Outside

end PluginHost
