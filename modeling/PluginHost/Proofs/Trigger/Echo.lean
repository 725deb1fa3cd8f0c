import PluginHost.Proofs.Sink.Delivery
import PluginHost.Trigger.RequestLogger

/-!
# Echoing requests

What the request logger writes: method, URI and body as lines. The main statement holds on every
sink, also on one that takes bytes in parts, interrupts, or fails anywhere.
-/

namespace PluginHost.RequestLogger

variable {σ : Type}

/-- The lines of a request: each field with a line feed behind it. -/
def lines (fields : Fields) : Bytes :=
  fields.method ++ [Bytes.lineFeed] ++ fields.uri ++ [Bytes.lineFeed] ++ fields.body ++
    [Bytes.lineFeed]

theorem parts_flatten (fields : Fields) : (parts fields).flatten = lines fields := by
  simp [parts, lines]

/-- How an attempt to write a request ends, and the calls that were made. The sink is flushed once,
at the end, or the attempt is broken off before that. -/
inductive Attempt (sink : Sink σ) (state : σ) (fields : Fields) :
    Except IoError Unit → List Call → σ → Prop where
  | done {calls : List Call} {middle after : σ} (answers : sink.Answers state calls middle)
      (unflushed : ∀ call ∈ calls, call.isFlush = false)
      (delivery : Delivery (lines fields) (.ok ()) calls)
      (flushed : sink.flush middle = (none, after)) :
      Attempt sink state fields (.ok ()) (calls ++ [.flush none]) after
  | unflushed {calls : List Call} {middle after : σ} {error : IoError}
      (answers : sink.Answers state calls middle)
      (unflushed : ∀ call ∈ calls, call.isFlush = false)
      (delivery : Delivery (lines fields) (.ok ()) calls)
      (failed : sink.flush middle = (some error, after)) :
      Attempt sink state fields (.error error) (calls ++ [.flush (some error)]) after
  | broken {calls : List Call} {after : σ} {error : IoError}
      (answers : sink.Answers state calls after)
      (unflushed : ∀ call ∈ calls, call.isFlush = false)
      (delivery : Delivery (lines fields) (.error error) calls) :
      Attempt sink state fields (.error error) calls after

theorem writeRequest_attempt (sink : Sink σ) (state : σ) (fields : Fields) :
    Attempt sink state fields (writeRequest sink state fields).1
      (writeRequest sink state fields).2.history (writeRequest sink state fields).2.state := by
  obtain ⟨calls, writes, delivery⟩ :=
    (Session.start state).writeEach_delivers sink (parts fields)
  rw [parts_flatten] at delivery
  rw [writeRequest]
  rcases outcome : (Session.start state).writeEach sink (parts fields) with ⟨result, middle⟩
  rw [outcome] at writes delivery
  have made : middle.calls.reverse = calls := by
    rw [writes.calls_eq, Session.start, List.append_nil, List.reverse_reverse]
  cases result with
  | error error =>
      simp only [Session.history, made]
      exact .broken writes.answers writes.unflushed delivery
  | ok written =>
      rcases answered : sink.flush middle.state with ⟨_ | error, after⟩
      · simp only [Session.flush, answered, Session.history, List.reverse_cons, made]
        exact .done writes.answers writes.unflushed delivery answered
      · simp only [Session.flush, answered, Session.history, List.reverse_cons, made]
        exact .unflushed writes.answers writes.unflushed delivery answered

namespace Attempt

variable {sink : Sink σ} {state after : σ} {fields : Fields} {result : Except IoError Unit}
  {calls : List Call}

theorem answers (attempt : Attempt sink state fields result calls after) :
    sink.Answers state calls after := by
  cases attempt with
  | done answers unflushed delivery flushed => exact answers.append (.flush flushed (.nil after))
  | unflushed answers unflushed delivery failed => exact answers.append (.flush failed (.nil after))
  | broken answers unflushed delivery => exact answers

theorem takenBy_flush (calls : List Call) (error : Option IoError) :
    takenBy (calls ++ [.flush error]) = takenBy calls := by
  rw [takenBy_append]
  exact List.append_nil _

/-- What is taken comes first among the lines, and it is all of them if the sink is flushed. -/
theorem taken (attempt : Attempt sink state fields result calls after) :
    takenBy calls <+: lines fields ∧
      calls.countP Call.isFlush = if takenBy calls = lines fields then 1 else 0 := by
  have unflushedCount {calls : List Call} (unflushed : ∀ call ∈ calls, call.isFlush = false) :
      calls.countP Call.isFlush = 0 := by
    rw [List.countP_eq_zero]
    intro call member
    simp [unflushed call member]
  have flushedOnce {calls : List Call} (unflushed : ∀ call ∈ calls, call.isFlush = false)
      (whole : takenBy calls = lines fields) (error : Option IoError) :
      takenBy (calls ++ [.flush error]) <+: lines fields ∧
        (calls ++ [Call.flush error]).countP Call.isFlush =
          if takenBy (calls ++ [.flush error]) = lines fields then 1 else 0 := by
    rw [takenBy_flush, whole, List.countP_append, unflushedCount unflushed]
    exact ⟨List.prefix_rfl, by simp [Call.isFlush]⟩
  cases attempt with
  | done answers unflushed delivery flushed =>
      exact flushedOnce unflushed (delivery.taken_eq_iff.mpr rfl) none
  | unflushed answers unflushed delivery failed =>
      exact flushedOnce unflushed (delivery.taken_eq_iff.mpr rfl) _
  | broken answers unflushed delivery =>
      have missing : takenBy calls ≠ lines fields := by simp [delivery.taken_eq_iff]
      rw [if_neg missing]
      exact ⟨delivery.taken_leads, unflushedCount unflushed⟩

/-- The attempt succeeds exactly if all lines are taken and the sink says that it is flushed. -/
theorem ok_iff (attempt : Attempt sink state fields result calls after) :
    result = .ok () ↔ takenBy calls = lines fields ∧ Call.flush none ∈ calls := by
  have notAmong {calls : List Call} (unflushed : ∀ call ∈ calls, call.isFlush = false) :
      Call.flush none ∉ calls := by
    intro member
    exact absurd (unflushed _ member) (by simp [Call.isFlush])
  cases attempt with
  | done answers unflushed delivery flushed =>
      rw [takenBy_flush, delivery.taken_eq_iff]
      simp
  | unflushed answers unflushed delivery failed => simp [notAmong unflushed]
  | broken answers unflushed delivery => simp [delivery.taken_eq_iff]

/-- A failed attempt ends with the first call that reports an error, and reports that. -/
theorem error_iff (attempt : Attempt sink state fields result calls after) (error : IoError) :
    result = .error error ↔ ∃ earlier last, calls = earlier ++ [last] ∧
      (∀ call ∈ earlier, call.failure? = none) ∧ last.failure? = some error := by
  have last_eq {first second : List Call} {one other : Call}
      (same : first ++ [one] = second ++ [other]) : one = other := by
    simpa using (List.append_inj' same rfl).2
  cases attempt with
  | done answers unflushed delivery flushed =>
      simp only [reduceCtorEq, false_iff]
      rintro ⟨earlier, last, same, sound, failure⟩
      rw [← last_eq same] at failure
      cases failure
  | @unflushed calls middle after reported answers unflushed delivery failed =>
      cases delivery with
      | whole taken sound =>
          constructor
          · rintro ⟨rfl⟩
            exact ⟨calls, _, rfl, sound, rfl⟩
          · rintro ⟨earlier, last, same, soundEarlier, failure⟩
            rw [← last_eq same] at failure
            cases failure
            rfl
  | @broken calls after reported answers unflushed delivery =>
      cases delivery with
      | @broken earlier last reported rest taken missing sound failure =>
          constructor
          · rintro ⟨rfl⟩
            exact ⟨earlier, last, rfl, sound, failure⟩
          · rintro ⟨others, other, same, soundOthers, failureOther⟩
            rw [← last_eq same, failure] at failureOther
            cases failureOther
            rfl

end Attempt

/-- Writing a request comes to an end on every sink, and by `exists_sink_iff` that is every way to
answer that never interrupts for ever. What the sink takes is at each time a first part of the
lines; it is flushed once if it has taken all of them, and else not; and the first error is reported
at once, when no call follows any more. -/
theorem writeRequest_on_any_sink (sink : Sink σ) (state : σ) (fields : Fields) :
    ∃ result session, writeRequest sink state fields = (result, session) ∧
      sink.Answers state session.history session.state ∧
      (∀ earlier, earlier <+: session.history → takenBy earlier <+: lines fields) ∧
      session.flushes = (if session.taken = lines fields then 1 else 0) ∧
      (result = .ok () ↔ session.taken = lines fields ∧ Call.flush none ∈ session.history) ∧
      ∀ error, result = .error error ↔ ∃ earlier last, session.history = earlier ++ [last] ∧
        (∀ call ∈ earlier, call.failure? = none) ∧ last.failure? = some error := by
  have attempt := writeRequest_attempt sink state fields
  rcases outcome : writeRequest sink state fields with ⟨result, session⟩
  rw [outcome] at attempt
  obtain ⟨leads, flushes⟩ := attempt.taken
  rw [Session.history, List.countP_reverse] at flushes
  refine ⟨result, session, rfl, attempt.answers, ?_, flushes, attempt.ok_iff, attempt.error_iff⟩
  rintro earlier ⟨later, split⟩
  refine List.IsPrefix.trans ?_ leads
  exact ⟨takenBy later, by rw [← takenBy_append, split]⟩

end PluginHost.RequestLogger
