import PluginHost.Sink.Basic

/-!
# Limited sinks

Sinks with a bound on the bytes they take in all and by one call, which interrupt their first calls
and may fail to flush.
-/

namespace PluginHost

/-- How a limited sink behaves; an absent bound does not bind. -/
structure Limits where
  /-- The most bytes one call takes. -/
  chunk : Option Nat
  /-- The error of a call that can take no byte; without one, such a call takes nothing. -/
  fullError : Option WriteError
  flushError : Option IoError

/-- The bytes a limited sink will still take and the interruptions still to come. -/
structure LimitedState where
  room : Option Nat
  interruptions : Nat

namespace Limits

/-- The smaller of two bounds; an absent one does not bind. -/
def least : Option Nat → Option Nat → Option Nat
  | none, bound => bound
  | bound, none => bound
  | some first, some second => some (min first second)

/-- The number of bytes that a call takes of those offered. -/
def share (limits : Limits) (room : Option Nat) (offered : Bytes) : Nat :=
  match least limits.chunk room with
  | none => offered.length
  | some bound => (offered.take bound).length

/-- What a call answers that can take no byte. -/
def whenFull (limits : Limits) : Answer :=
  match limits.fullError with
  | none => .accepted 0
  | some error => .failed error

def write (limits : Limits) (state : LimitedState) (offered : Bytes) : Answer × LimitedState :=
  match state.interruptions with
  | interruptions + 1 => (.interrupted, { state with interruptions })
  | 0 =>
      match limits.share state.room offered with
      | 0 => (limits.whenFull, state)
      | count + 1 =>
          (.accepted (count + 1), { state with room := state.room.map (· - (count + 1)) })

/-- Each interruption uses up one of those to come. -/
theorem interruptions_lt {limits : Limits} {state after : LimitedState} {offered : Bytes}
    (interrupted : limits.write state offered = (.interrupted, after)) :
    after.interruptions < state.interruptions := by
  unfold write at interrupted
  split at interrupted
  · next interruptions found =>
      simp only [Prod.mk.injEq, true_and] at interrupted
      rw [← interrupted, found]
      exact Nat.lt_succ_self interruptions
  · split at interrupted
    · unfold whenFull at interrupted
      split at interrupted <;> simp at interrupted
    · simp at interrupted

def sink (limits : Limits) : Sink LimitedState where
  write := limits.write
  flush state := (limits.flushError, state)
  patience state _ := state.interruptions
  patience_lt := interruptions_lt

end Limits

end PluginHost
