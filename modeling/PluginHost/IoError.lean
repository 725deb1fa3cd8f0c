/-!
# Input and output errors

The kinds of failure that reading and writing can report, each error with the text that describes
it.
-/

namespace PluginHost

inductive IoKind where
  | interrupted
  | brokenPipe
  | storageFull
  | writeZero
  | notFound
  | permissionDenied
  | notADirectory
  | isADirectory
  | invalidFilename
  | invalidInput
  | unclassified
  | other
  deriving DecidableEq, Repr

structure IoError where
  kind : IoKind
  text : String
  deriving DecidableEq, Repr

namespace IoError

def noSuchFile : IoError := ⟨.notFound, "No such file or directory (os error 2)"⟩

def notADirectory : IoError := ⟨.notADirectory, "Not a directory (os error 20)"⟩

def isADirectory : IoError := ⟨.isADirectory, "Is a directory (os error 21)"⟩

def nameTooLong : IoError := ⟨.invalidFilename, "File name too long (os error 36)"⟩

def noDevice : IoError := ⟨.unclassified, "No such device or address (os error 6)"⟩

def unanswered : IoError := ⟨.unclassified, "Input/output error (os error 5)"⟩

def senseless : IoError := ⟨.invalidInput, "Invalid argument (os error 22)"⟩

def nulInName : IoError := ⟨.invalidInput, "file name contained an unexpected NUL byte"⟩

def notPermitted : IoError := ⟨.permissionDenied, "Permission denied (os error 13)"⟩

/-- A write call took none of the bytes it was offered. -/
def wroteNothing : IoError := ⟨.writeZero, "failed to write whole buffer"⟩

end IoError

/-- An error with which a write call fails for good: no interruption. -/
structure WriteError extends IoError where
  lasts : kind ≠ .interrupted
  deriving DecidableEq, Repr

namespace WriteError

def noSpace : WriteError := ⟨⟨.storageFull, "No space left on device (os error 28)"⟩, by decide⟩

end WriteError

end PluginHost
