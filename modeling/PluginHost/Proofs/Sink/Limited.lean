import PluginHost.Proofs.Sink.Delivery
import PluginHost.Sink.Limited

/-!
# Sinks within limits

A sink that keeps to limits interrupts its first calls, and then takes some of the bytes that it is
offered as long as it has room. What it has room for is all that decides about what it takes in all:
neither the size of the parts nor the interruptions show.
-/

namespace PluginHost

variable {σ : Type}

/-- A sink keeps to limits, as far as a view of its states tells. A call takes any positive number
of bytes within the limits. -/
structure Sink.KeepsTo (sink : Sink σ) (limits : Limits) (view : σ → LimitedState) : Prop where
  interrupts : ∀ state offered count, (view state).interruptions = count + 1 →
    ∃ after, sink.write state offered = (.interrupted, after) ∧
      view after = ⟨(view state).room, count⟩
  refuses : ∀ state offered, offered ≠ [] → (view state).interruptions = 0 →
    (view state).room = some 0 →
      ∃ after, sink.write state offered = (limits.whenFull, after) ∧ view after = view state
  takes : ∀ state offered, offered ≠ [] → (view state).interruptions = 0 →
    (view state).room ≠ some 0 →
      ∃ count after, sink.write state offered = (.accepted (count + 1), after) ∧
        count + 1 ≤ offered.length ∧ (∀ bound ∈ limits.chunk, count + 1 ≤ bound) ∧
        (∀ bound ∈ (view state).room, count + 1 ≤ bound) ∧
        view after = ⟨(view state).room.map (· - (count + 1)), 0⟩
  flushes : ∀ state, (sink.flush state).1 = limits.flushError

namespace Limits

/-- The error of a call that finds no room. -/
def refusal (limits : Limits) : IoError :=
  (limits.fullError.map WriteError.toIoError).getD .wroteNothing

theorem refusal_of_whenFull (limits : Limits) (offered : Bytes) :
    (Call.write offered limits.whenFull).failure? = some limits.refusal ∧
      (Call.write offered limits.whenFull).taken = [] := by
  unfold whenFull refusal
  cases limits.fullError <;> exact ⟨rfl, rfl⟩

/-- What both bounds allow is allowed by each. -/
theorem share_le (limits : Limits) (room : Option Nat) (offered : Bytes) :
    limits.share room offered ≤ offered.length ∧
      (∀ bound ∈ limits.chunk, limits.share room offered ≤ bound) ∧
      ∀ bound ∈ room, limits.share room offered ≤ bound := by
  unfold share
  cases limits.chunk <;> cases room <;> grind [least]

theorem share_pos {limits : Limits} {room : Option Nat} {offered : Bytes}
    (proper : limits.chunk ≠ some 0) (hasRoom : room ≠ some 0) (visible : offered ≠ []) :
    0 < limits.share room offered := by
  have long : 0 < offered.length := List.length_pos_iff.mpr visible
  unfold share
  rcases found : limits.chunk with _ | chunk <;> rcases room with _ | room
  · simpa [least] using long
  · have : room ≠ 0 := fun zero => hasRoom (congrArg some zero)
    simp only [least, List.length_take]
    omega
  · have : chunk ≠ 0 := fun zero => proper (found.trans (congrArg some zero))
    simp only [least, List.length_take]
    omega
  · have : room ≠ 0 := fun zero => hasRoom (congrArg some zero)
    have : chunk ≠ 0 := fun zero => proper (found.trans (congrArg some zero))
    simp only [least, List.length_take]
    omega

/-- The limited sink itself, if each of its calls may take a byte. -/
theorem sink_keepsTo {limits : Limits} (proper : limits.chunk ≠ some 0) :
    limits.sink.KeepsTo limits id where
  interrupts state offered count waiting := by
    have waiting : state.interruptions = count + 1 := waiting
    exact ⟨⟨state.room, count⟩, by simp only [sink, write, waiting], rfl⟩
  refuses state offered visible none full := by
    have none : state.interruptions = 0 := none
    have noShare : limits.share state.room offered = 0 :=
      Nat.le_zero.mp ((limits.share_le state.room offered).2.2 0 full)
    exact ⟨state, by simp only [sink, write, none, noShare], rfl⟩
  takes state offered visible none hasRoom := by
    have none : state.interruptions = 0 := none
    have hasRoom : state.room ≠ some 0 := hasRoom
    obtain ⟨count, isShare⟩ :=
      Nat.exists_eq_succ_of_ne_zero (Nat.ne_of_gt (share_pos proper hasRoom visible))
    obtain ⟨inOffer, inChunk, inRoom⟩ := limits.share_le state.room offered
    rw [isShare] at inOffer inChunk inRoom
    refine ⟨count, ⟨state.room.map (· - (count + 1)), 0⟩, ?_, inOffer, inChunk, inRoom, rfl⟩
    simp only [sink, write, none, isShare]
  flushes _ := rfl

end Limits

/-! ## Offers -/

namespace Session

/-- Nothing but bytes has been offered. -/
def Offers (session : Session σ) : Prop :=
  ∀ offered answer, Call.write offered answer ∈ session.calls → offered ≠ []

theorem Offers.write {session : Session σ} (offers : session.Offers) (after : σ)
    (first : UInt8) (rest : Bytes) (answer : Answer) :
    Offers ⟨after, .write (first :: rest) answer :: session.calls⟩ := by
  intro offered other member
  rcases List.mem_cons.mp member with isNew | isOld
  · cases isNew
    exact List.cons_ne_nil first rest
  · exact offers offered other isOld

/-- Where nothing is left to be written, no call is made. -/
theorem Offers.writeAll {sink : Sink σ} {session : Session σ} (offers : session.Offers)
    (bytes : Bytes) : (session.writeAll sink bytes).2.Offers := by
  fun_induction Session.writeAll sink session bytes with
  | case1 session => exact offers
  | case2 session first rest after answered ih => exact ih (offers.write _ _ _ _)
  | case3 session first rest error after answered => exact offers.write _ _ _ _
  | case4 session first rest after answered => exact offers.write _ _ _ _
  | case5 session first rest count after answered ih => exact ih (offers.write _ _ _ _)

theorem Offers.writeEach {sink : Sink σ} {session : Session σ} (offers : session.Offers)
    (parts : List Bytes) : (session.writeEach sink parts).2.Offers := by
  induction parts generalizing session with
  | nil => exact offers
  | cons bytes parts ih =>
      have middle : (session.writeAll sink bytes).2.Offers := offers.writeAll bytes
      rw [Session.writeEach]
      rcases outcome : session.writeAll sink bytes with ⟨_ | written, after⟩
      · rw [outcome] at middle
        exact middle
      · rw [outcome] at middle
        exact ih middle

end Session

/-! ## Room -/

/-- A call that fails takes nothing. -/
theorem Call.taken_of_failure {call : Call} {error : IoError}
    (failure : call.failure? = some error) : call.taken = [] := by
  match call with
  | .write offered (.accepted 0) => rfl
  | .write offered (.accepted (count + 1)) => cases failure
  | .write offered .interrupted => cases failure
  | .write offered (.failed _) => rfl
  | .flush _ => rfl

theorem Sink.Answers.split {sink : Sink σ} {state after : σ} {first second : List Call}
    (answers : sink.Answers state (first ++ second) after) :
    ∃ middle, sink.Answers state first middle ∧ sink.Answers middle second after := by
  induction first generalizing state with
  | nil => exact ⟨state, .nil state, answers⟩
  | cons call first ih =>
      cases answers with
      | write answered later =>
          obtain ⟨middle, before, behind⟩ := ih later
          exact ⟨middle, .write answered before, behind⟩
      | flush answered later =>
          obtain ⟨middle, before, behind⟩ := ih later
          exact ⟨middle, .flush answered before, behind⟩

namespace Sink.KeepsTo

variable {sink : Sink σ} {limits : Limits} {view : σ → LimitedState} {state after : σ}

/-- One call takes what it takes from the room. It fails only where no room is left. -/
theorem write_room (keeps : sink.KeepsTo limits view) {offered : Bytes} {answer : Answer}
    (visible : offered ≠ []) (answered : sink.write state offered = (answer, after)) :
    (view state).room = (view after).room.map ((Call.write offered answer).taken.length + ·) ∧
      ∀ error, (Call.write offered answer).failure? = some error →
        (view state).room = some 0 ∧ error = limits.refusal := by
  rcases waiting : (view state).interruptions with _ | count
  · by_cases full : (view state).room = some 0
    · obtain ⟨next, refused, same⟩ := keeps.refuses state offered visible waiting full
      cases answered.symm.trans refused
      obtain ⟨failure, nothing⟩ := limits.refusal_of_whenFull offered
      rw [nothing, same, full, failure]
      exact ⟨rfl, fun error isError => ⟨rfl, (Option.some.inj isError).symm⟩⟩
    · obtain ⟨count, next, took, inOffer, -, inRoom, left⟩ :=
        keeps.takes state offered visible waiting full
      cases answered.symm.trans took
      refine ⟨?_, fun error isError => by cases isError⟩
      rw [left, Call.taken, List.length_take, Nat.min_eq_left inOffer]
      rcases room : (view state).room with _ | bound
      · rfl
      · simp only [Option.map_some, Option.some.injEq]
        exact (Nat.add_sub_of_le (inRoom bound room)).symm
  · obtain ⟨next, interrupted, same⟩ := keeps.interrupts state offered count waiting
    cases answered.symm.trans interrupted
    rw [same]
    exact ⟨by simp [Call.taken], fun error isError => by cases isError⟩

/-- What calls have taken is what the room has become less by. -/
theorem answers_room (keeps : sink.KeepsTo limits view) {calls : List Call}
    (answers : sink.Answers state calls after)
    (unflushed : ∀ call ∈ calls, call.isFlush = false)
    (offers : ∀ offered answer, Call.write offered answer ∈ calls → offered ≠ []) :
    (view state).room = (view after).room.map ((takenBy calls).length + ·) := by
  induction answers with
  | nil state => simp [takenBy]
  | @write state middle after offered answer calls answered later ih =>
      obtain ⟨room, -⟩ := keeps.write_room (offers offered answer (List.mem_cons_self ..)) answered
      have roomLater := ih (fun call member => unflushed call (List.mem_cons_of_mem _ member))
        fun offered answer member => offers offered answer (List.mem_cons_of_mem _ member)
      rw [room, roomLater, Option.map_map, takenBy, takenBy, List.flatMap_cons, List.length_append]
      congr 1
      funext left
      exact (Nat.add_assoc ..).symm
  | flush answered later ih =>
      exact absurd (unflushed _ (List.mem_cons_self ..)) (by simp [Call.isFlush])

/-- Where bytes are delivered within limits, what there is room for is taken. An attempt is broken
off only for want of room. -/
theorem delivery_room (keeps : sink.KeepsTo limits view) {calls : List Call} {bytes : Bytes}
    {result : Except IoError Unit} (answers : sink.Answers state calls after)
    (unflushed : ∀ call ∈ calls, call.isFlush = false)
    (offers : ∀ offered answer, Call.write offered answer ∈ calls → offered ≠ [])
    (delivery : Delivery bytes result calls) :
    result = .ok () ∧ (∀ room ∈ (view state).room, bytes.length ≤ room) ∨
      result = .error limits.refusal ∧ ∃ room, (view state).room = some room ∧
        room < bytes.length ∧ takenBy calls = bytes.take room := by
  have room := keeps.answers_room answers unflushed offers
  cases delivery with
  | whole taken sound =>
      refine .inl ⟨rfl, fun bound isRoom => ?_⟩
      rw [room, taken] at isRoom
      obtain ⟨left, -, rfl⟩ := Option.map_eq_some_iff.mp isRoom
      exact Nat.le_add_right ..
  | @broken earlier last error rest taken missing sound failure =>
      obtain ⟨middle, before, answersLast⟩ := answers.split
      have roomBefore := keeps.answers_room before
        (fun call member => unflushed call (List.mem_append_left _ member))
        fun offered answer member => offers offered answer (List.mem_append_left _ member)
      have inCalls : last ∈ earlier ++ [last] := by simp
      cases answersLast with
      | flush => exact absurd (unflushed _ inCalls) (by simp [Call.isFlush])
      | @write _ _ _ offered answer _ answered _ =>
          obtain ⟨-, fails⟩ := keeps.write_room (offers offered answer inCalls) answered
          obtain ⟨full, rfl⟩ := fails error failure
          rw [takenBy_append, takenBy, takenBy, List.flatMap_singleton,
            Call.taken_of_failure failure, List.append_nil, ← takenBy] at taken ⊢
          rw [full] at roomBefore
          refine .inr ⟨rfl, (takenBy earlier).length, roomBefore, ?_, ?_⟩
          · rw [← taken, List.length_append]
            exact Nat.lt_add_of_pos_right (List.length_pos_iff.mpr missing)
          · rw [← taken, List.take_left]

end Sink.KeepsTo

end PluginHost
