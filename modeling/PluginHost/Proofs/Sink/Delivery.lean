import Mathlib.Data.Nat.Find
import PluginHost.Sink.Basic

/-!
# Delivery

What writing brings into a sink, call by call. The calls of a session are those that the sink has
answered, one after the other. Byte strings that are written whole are taken in order and without a
gap, up to the first call that reports an error; that call is the last.
-/

namespace PluginHost

variable {σ : Type}

/-- The error that a call reports. An interruption is none. -/
def Call.failure? : Call → Option IoError
  | .write _ (.accepted 0) => some .wroteNothing
  | .write _ (.failed error) => some error.toIoError
  | .flush error => error
  | _ => none

/-- The calls that a sink answers one after the other, from a state to a state. -/
inductive Sink.Answers (sink : Sink σ) : σ → List Call → σ → Prop where
  | nil (state : σ) : sink.Answers state [] state
  | write {state middle after : σ} {offered : Bytes} {answer : Answer} {calls : List Call}
      (answered : sink.write state offered = (answer, middle))
      (later : sink.Answers middle calls after) :
      sink.Answers state (.write offered answer :: calls) after
  | flush {state middle after : σ} {error : Option IoError} {calls : List Call}
      (answered : sink.flush state = (error, middle)) (later : sink.Answers middle calls after) :
      sink.Answers state (.flush error :: calls) after

theorem Sink.Answers.append {sink : Sink σ} {state middle after : σ} {first second : List Call}
    (earlier : sink.Answers state first middle) (later : sink.Answers middle second after) :
    sink.Answers state (first ++ second) after := by
  induction earlier with
  | nil state => exact later
  | write answered rest ih => exact .write answered (ih later)
  | flush answered rest ih => exact .flush answered (ih later)

/-- Whether an offer is interrupted so many times in a row. -/
def interruptedFor (write : σ → Bytes → Answer × σ) (offered : Bytes) : Nat → σ → Bool
  | 0, _ => true
  | count + 1, state =>
      match write state offered with
      | (.interrupted, after) => interruptedFor write offered count after
      | _ => false

/-- The patience of a sink can be found for every way to write that never interrupts an offer for
ever, and only for those. -/
theorem exists_sink_iff (write : σ → Bytes → Answer × σ) (flush : σ → Option IoError × σ) :
    (∃ sink : Sink σ, sink.write = write ∧ sink.flush = flush) ↔
      ∀ state offered, ∃ count, interruptedFor write offered count state = false := by
  classical
  constructor
  · rintro ⟨sink, rfl, rfl⟩ state offered
    refine ⟨sink.patience state offered + 1, ?_⟩
    have bounded : ∀ count state, sink.patience state offered < count →
        interruptedFor sink.write offered count state = false := by
      intro count
      induction count with
      | zero => intro state below; exact absurd below (Nat.not_lt_zero _)
      | succ count ih =>
          intro state below
          rw [interruptedFor]
          split
          · next after answered =>
              exact ih after (Nat.lt_of_lt_of_le (sink.patience_lt answered)
                (Nat.le_of_lt_succ below))
          · rfl
    exact bounded _ state (Nat.lt_succ_self _)
  · intro finite
    refine ⟨⟨write, flush, fun state offered => Nat.find (finite state offered), ?_⟩, rfl, rfl⟩
    intro state offered after answered
    have ends := Nat.find_spec (finite state offered)
    rcases found : Nat.find (finite state offered) with _ | count
    · rw [found] at ends
      cases ends
    · rw [found, interruptedFor, answered] at ends
      exact Nat.lt_succ_of_le (Nat.find_min' (finite after offered) ends)

/-- What the calls of a list bring into the sink. -/
def takenBy (calls : List Call) : Bytes := calls.flatMap Call.taken

theorem takenBy_append (first second : List Call) :
    takenBy (first ++ second) = takenBy first ++ takenBy second := List.flatMap_append

/-- How an attempt to write bytes by some calls ends: either no call fails and all of the bytes are
taken, or the last call fails before that, and its error is reported. -/
inductive Delivery (bytes : Bytes) : Except IoError Unit → List Call → Prop where
  | whole {calls : List Call} (taken : takenBy calls = bytes)
      (sound : ∀ call ∈ calls, call.failure? = none) : Delivery bytes (.ok ()) calls
  | broken {earlier : List Call} {last : Call} {error : IoError} {rest : Bytes}
      (taken : takenBy (earlier ++ [last]) ++ rest = bytes) (missing : rest ≠ [])
      (sound : ∀ call ∈ earlier, call.failure? = none) (failure : last.failure? = some error) :
      Delivery bytes (.error error) (earlier ++ [last])

namespace Delivery

variable {bytes : Bytes} {result : Except IoError Unit} {calls : List Call}

/-- Calls that bring in the first bytes come before those that bring in the others. -/
theorem after {first : Bytes} (delivery : Delivery bytes result calls) (earlier : List Call)
    (taken : takenBy earlier = first) (sound : ∀ call ∈ earlier, call.failure? = none) :
    Delivery (first ++ bytes) result (earlier ++ calls) := by
  cases delivery with
  | whole takenLater soundLater =>
      refine .whole (by rw [takenBy_append, taken, takenLater]) ?_
      intro call member
      exact (List.mem_append.mp member).elim (sound call) (soundLater call)
  | @broken middle last error rest takenLater missing soundLater failure =>
      rw [← List.append_assoc]
      refine .broken ?_ missing ?_ failure
      · rw [List.append_assoc, takenBy_append, taken, List.append_assoc, takenLater]
      · intro call member
        exact (List.mem_append.mp member).elim (sound call) (soundLater call)

/-- A call that does not fail comes before the others. -/
theorem cons (delivery : Delivery bytes result calls) (call : Call)
    (sound : call.failure? = none) : Delivery (call.taken ++ bytes) result (call :: calls) :=
  delivery.after [call] (List.append_nil _) fun _ member => (List.mem_singleton.mp member) ▸ sound

/-- A single call that fails and takes nothing of what there is to be taken. -/
theorem failed {call : Call} {error : IoError} (nothing : call.taken = []) (missing : bytes ≠ [])
    (failure : call.failure? = some error) : Delivery bytes (.error error) [call] := by
  change Delivery bytes (.error error) ([] ++ [call])
  refine .broken ?_ missing (by simp) failure
  rw [List.nil_append, takenBy, List.flatMap_singleton, nothing, List.nil_append]

/-- What the calls take comes first among the bytes. -/
theorem taken_leads (delivery : Delivery bytes result calls) : takenBy calls <+: bytes := by
  cases delivery with
  | whole taken sound => exact taken ▸ List.prefix_rfl
  | broken taken missing sound failure => exact ⟨_, taken⟩

/-- All bytes are taken exactly if no error is reported. -/
theorem taken_eq_iff (delivery : Delivery bytes result calls) :
    takenBy calls = bytes ↔ result = .ok () := by
  cases delivery with
  | whole taken sound => simp [taken]
  | @broken earlier last error rest taken missing sound failure =>
      have shorter : takenBy (earlier ++ [last]) ≠ bytes := by
        intro same
        rw [same] at taken
        exact missing (List.append_cancel_left (taken.trans (List.append_nil bytes).symm))
      simp [shorter]

end Delivery

namespace Session

/-- The calls that were made, first to last. -/
def history (session : Session σ) : List Call := session.calls.reverse

/-- A session goes on from another one by calls that the sink answers, none of which flushes. -/
structure Writes (sink : Sink σ) (before : Session σ) (calls : List Call)
    (after : Session σ) : Prop where
  calls_eq : after.calls = calls.reverse ++ before.calls
  answers : sink.Answers before.state calls after.state
  unflushed : ∀ call ∈ calls, call.isFlush = false

namespace Writes

variable {sink : Sink σ} {before middle after : Session σ} {first second : List Call}

theorem nil (session : Session σ) : Writes sink session [] session :=
  ⟨rfl, .nil session.state, by simp⟩

theorem trans (earlier : Writes sink before first middle)
    (later : Writes sink middle second after) :
    Writes sink before (first ++ second) after where
  calls_eq := by rw [later.calls_eq, earlier.calls_eq, List.reverse_append, List.append_assoc]
  answers := earlier.answers.append later.answers
  unflushed call member :=
    (List.mem_append.mp member).elim (earlier.unflushed call) (later.unflushed call)

/-- One write call. -/
theorem once {session : Session σ} {state : σ} {offered : Bytes} {answer : Answer}
    (answered : sink.write session.state offered = (answer, state)) :
    Writes sink session [.write offered answer] ⟨state, .write offered answer :: session.calls⟩ :=
  ⟨rfl, .write answered (.nil state), by simp [Call.isFlush]⟩

end Writes

/-- Writing a byte string whole: the calls that are made deliver it. -/
theorem writeAll_delivers (sink : Sink σ) (session : Session σ) (bytes : Bytes) :
    ∃ calls, Writes sink session calls (session.writeAll sink bytes).2 ∧
      Delivery bytes (session.writeAll sink bytes).1 calls := by
  -- The induction is that of the loop: on what is left, and then on the interruptions to come.
  fun_induction Session.writeAll sink session bytes with
  | case1 session => exact ⟨[], .nil session, .whole rfl (by simp)⟩
  | case2 session first rest after answered ih =>
      obtain ⟨calls, writes, delivery⟩ := ih
      exact ⟨_, (Writes.once answered).trans writes,
        delivery.cons (.write (first :: rest) .interrupted) rfl⟩
  | case3 session first rest error after answered =>
      exact ⟨_, .once answered, .failed rfl (by simp) rfl⟩
  | case4 session first rest after answered =>
      exact ⟨_, .once answered, .failed rfl (by simp) rfl⟩
  | case5 session first rest count after answered ih =>
      obtain ⟨calls, writes, delivery⟩ := ih
      refine ⟨_, (Writes.once answered).trans writes, ?_⟩
      have whole := delivery.cons (.write (first :: rest) (.accepted (count + 1))) rfl
      rwa [Call.taken, List.take_succ_cons, List.cons_append, List.take_append_drop] at whole

/-- Writing several byte strings delivers them one after the other. -/
theorem writeEach_delivers (sink : Sink σ) (session : Session σ) (parts : List Bytes) :
    ∃ calls, Writes sink session calls (session.writeEach sink parts).2 ∧
      Delivery parts.flatten (session.writeEach sink parts).1 calls := by
  induction parts generalizing session with
  | nil => exact ⟨[], .nil session, .whole rfl (by simp)⟩
  | cons bytes parts ih =>
      obtain ⟨first, writes, delivery⟩ := session.writeAll_delivers sink bytes
      rw [writeEach]
      rcases outcome : session.writeAll sink bytes with ⟨result, middle⟩
      rw [outcome] at writes delivery
      cases delivery with
      | whole taken sound =>
          obtain ⟨second, writesLater, later⟩ := ih middle
          exact ⟨_, writes.trans writesLater, later.after _ taken sound⟩
      | @broken earlier last error rest taken missing sound failure =>
          have missingToo : rest ++ parts.flatten ≠ [] := by simp [missing]
          refine ⟨_, writes, .broken ?_ missingToo sound failure⟩
          rw [← List.append_assoc, taken, List.flatten_cons]

end Session

end PluginHost
