import PluginHost.Proofs.Sink.Limited
import PluginHost.Proofs.Trigger.Echo

/-!
# Echoing requests within limits

What the request logger brings into a sink that keeps to limits: as much of the lines as there is
room for. Into how many parts they are cut, and how often a call is interrupted, makes no
difference.
-/

namespace PluginHost.RequestLogger

variable {σ : Type}

/-- What comes of writing a request, but for the calls that were made. -/
structure Written where
  taken : Bytes
  flushes : Nat
  result : Except IoError Unit

/-- What has come of writing a request on a sink. -/
def written (sink : Sink σ) (state : σ) (fields : Fields) : Written :=
  let (result, session) := writeRequest sink state fields
  ⟨session.taken, session.flushes, result⟩

/-- The result of a flush. -/
def flushResult : Option IoError → Except IoError Unit
  | none => .ok ()
  | some error => .error error

theorem writeRequest_offers (sink : Sink σ) (state : σ) (fields : Fields) :
    (writeRequest sink state fields).2.Offers := by
  have started : (Session.start state).Offers := by simp [Session.Offers, Session.start]
  have written : ((Session.start state).writeEach sink (parts fields)).2.Offers :=
    started.writeEach (parts fields)
  rw [writeRequest]
  rcases done : (Session.start state).writeEach sink (parts fields) with ⟨_ | _, session⟩
  · rw [done] at written
    exact written
  · rw [done] at written
    intro offered answer member
    refine written offered answer ?_
    dsimp only [Session.flush] at member
    rcases answered : sink.flush session.state with ⟨_ | _, _⟩ <;> rw [answered] at member <;>
      simpa using member

variable {sink : Sink σ} {limits : Limits} {view : σ → LimitedState}

/-- The room decides: all lines are taken and the sink is flushed, or the first of the bytes are
taken for which there is room. -/
theorem written_cases (keeps : sink.KeepsTo limits view) (state : σ) (fields : Fields) :
    (∀ room ∈ (view state).room, (lines fields).length ≤ room) ∧
        written sink state fields = ⟨lines fields, 1, flushResult limits.flushError⟩ ∨
      ∃ room, (view state).room = some room ∧ room < (lines fields).length ∧
        written sink state fields = ⟨(lines fields).take room, 0, .error limits.refusal⟩ := by
  have attempt := writeRequest_attempt sink state fields
  have offers := writeRequest_offers sink state fields
  rw [written]
  rcases done : writeRequest sink state fields with ⟨result, session⟩
  rw [done] at attempt offers
  dsimp only at attempt offers ⊢
  have flushes := attempt.taken.2
  rw [Session.history, List.countP_reverse] at flushes
  have taken : session.taken = takenBy session.history := rfl
  rw [taken, Session.flushes, flushes, ← Session.history]
  have offered (offer : Bytes) (answer : Answer)
      (member : Call.write offer answer ∈ session.history) : offer ≠ [] :=
    offers offer answer (List.mem_reverse.mp member)
  generalize session.history = calls at attempt offered ⊢
  cases attempt with
  | @done calls middle _ answers unflushed delivery flushed =>
      have fits := keeps.delivery_room answers unflushed
        (fun offer answer member => offered offer answer (List.mem_append_left _ member)) delivery
      have whole := delivery.taken_eq_iff.mpr rfl
      have noError : limits.flushError = none := by rw [← keeps.flushes middle, flushed]
      rw [Attempt.takenBy_flush, whole, if_pos rfl, noError]
      simp only [reduceCtorEq, false_and, or_false] at fits
      exact .inl ⟨fits.2, rfl⟩
  | @unflushed calls middle _ error answers unflushed delivery failed =>
      have fits := keeps.delivery_room answers unflushed
        (fun offer answer member => offered offer answer (List.mem_append_left _ member)) delivery
      have whole := delivery.taken_eq_iff.mpr rfl
      have isError : limits.flushError = some error := by rw [← keeps.flushes middle, failed]
      rw [Attempt.takenBy_flush, whole, if_pos rfl, isError]
      simp only [reduceCtorEq, false_and, or_false] at fits
      exact .inl ⟨fits.2, rfl⟩
  | broken answers unflushed delivery =>
      have missing : takenBy calls ≠ lines fields := by simp [delivery.taken_eq_iff]
      rcases keeps.delivery_room answers unflushed offered delivery with
        ⟨isOk, -⟩ | ⟨isRefusal, room, isRoom, short, first⟩
      · cases isOk
      · cases isRefusal
        rw [if_neg missing, first]
        exact .inr ⟨room, isRoom, short, rfl⟩

end PluginHost.RequestLogger
