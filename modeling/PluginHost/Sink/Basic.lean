import PluginHost.Bytes
import PluginHost.IoError

/-!
# Sinks

A sink takes bytes by write calls and is flushed at the end. A write call may take a part of what it
is offered, take nothing, be interrupted, or fail; a flush may fail in any way, an interruption
included. Writing a byte string whole repeats the call on what is left; the session keeps every call
that was made.
-/

namespace PluginHost

/-- What a write call answers. A count above the number of bytes offered stands for all of them. -/
inductive Answer where
  | accepted (count : Nat)
  | interrupted
  | failed (error : WriteError)
  deriving DecidableEq, Repr

/-- A sink with states in `σ`. For each state and offer, `patience` bounds the number of
interruptions that can follow one another. -/
structure Sink (σ : Type) where
  write : σ → Bytes → Answer × σ
  flush : σ → Option IoError × σ
  patience : σ → Bytes → Nat
  patience_lt : ∀ {state offered after}, write state offered = (.interrupted, after) →
    patience after offered < patience state offered

inductive Call where
  | write (offered : Bytes) (answer : Answer)
  | flush (error : Option IoError)
  deriving DecidableEq, Repr

/-- The bytes a call brought into the sink. -/
def Call.taken : Call → Bytes
  | .write offered (.accepted count) => offered.take count
  | _ => []

def Call.isFlush : Call → Bool
  | .flush _ => true
  | .write _ _ => false

/-- The state of a sink and the calls made so far, last first. -/
structure Session (σ : Type) where
  state : σ
  calls : List Call

namespace Session

variable {σ : Type}

def start (state : σ) : Session σ := ⟨state, []⟩

/-- All bytes the sink took, in order. -/
def taken (session : Session σ) : Bytes := session.calls.reverse.flatMap Call.taken

def flushes (session : Session σ) : Nat := session.calls.countP Call.isFlush

/-- Offer the bytes until the sink has taken all of them. Interrupted calls are made again; the
first other failure, or a call that takes nothing, ends the attempt. -/
def writeAll (sink : Sink σ) (session : Session σ) (bytes : Bytes) :
    Except IoError Unit × Session σ :=
  match bytes with
  | [] => (.ok (), session)
  | first :: rest =>
      match answer : sink.write session.state (first :: rest) with
      | (.interrupted, after) =>
          writeAll sink ⟨after, .write (first :: rest) .interrupted :: session.calls⟩
            (first :: rest)
      | (.failed error, after) =>
          (.error error.toIoError,
            ⟨after, .write (first :: rest) (.failed error) :: session.calls⟩)
      | (.accepted 0, after) =>
          (.error .wroteNothing, ⟨after, .write (first :: rest) (.accepted 0) :: session.calls⟩)
      | (.accepted (count + 1), after) =>
          writeAll sink ⟨after, .write (first :: rest) (.accepted (count + 1)) :: session.calls⟩
            (rest.drop count)
termination_by (bytes.length, sink.patience session.state bytes)
decreasing_by
  · exact Prod.Lex.right _ (sink.patience_lt answer)
  · exact Prod.Lex.left _ _ (Nat.lt_succ_of_le (by rw [List.length_drop]; exact Nat.sub_le _ _))

/-- Write several byte strings, one after the other, up to the first failure. -/
def writeEach (sink : Sink σ) (session : Session σ) : List Bytes → Except IoError Unit × Session σ
  | [] => (.ok (), session)
  | bytes :: rest =>
      match session.writeAll sink bytes with
      | (.ok (), session) => writeEach sink session rest
      | (.error error, session) => (.error error, session)

def flush (sink : Sink σ) (session : Session σ) : Except IoError Unit × Session σ :=
  match sink.flush session.state with
  | (none, after) => (.ok (), ⟨after, .flush none :: session.calls⟩)
  | (some error, after) => (.error error, ⟨after, .flush (some error) :: session.calls⟩)

end Session

end PluginHost
