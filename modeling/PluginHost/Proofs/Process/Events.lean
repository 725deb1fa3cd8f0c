import PluginHost.Proofs.Process.Output
import PluginHost.Plugin

/-!
# Events from processes

A process reports no events of its own. All that are told while code is put into it, called and
taken out of it are those of triggers.
-/

namespace PluginHost

open Carries (processes)

def Notice.event? : Notice → Option Log.Event
  | .event told => some told
  | .text _ => none

/-- The events are those of such triggers, called one after the other in front of a standard
output. -/
def Replies (has : Trigger → Prop) (stdout : Stdout) (events : List Log.Event) : Prop :=
  ∃ calls : List (Trigger × Handle), (∀ call ∈ calls, has call.1) ∧
    events = calls.flatMap fun call => (call.1 call.2 stdout).events

namespace Replies

variable {has : Trigger → Prop} {stdout : Stdout} {events more : List Log.Event}

theorem nil : Replies has stdout [] := ⟨[], nofun, rfl⟩

theorem call {trigger : Trigger} (holds : has trigger) (handle : Handle) :
    Replies has stdout (trigger handle stdout).events :=
  ⟨[(trigger, handle)], by simpa using holds, (List.append_nil _).symm⟩

theorem mono {more : Trigger → Prop} (replies : Replies has stdout events)
    (weaker : ∀ trigger, has trigger → more trigger) : Replies more stdout events := by
  obtain ⟨calls, holds, rfl⟩ := replies
  exact ⟨calls, fun call member => weaker _ (holds call member), rfl⟩

theorem append (replies : Replies has stdout events) (repliesLater : Replies has stdout more) :
    Replies has stdout (events ++ more) := by
  obtain ⟨calls, holds, rfl⟩ := replies
  obtain ⟨later, holdsLater, rfl⟩ := repliesLater
  refine ⟨calls ++ later, fun call member => ?_, List.flatMap_append.symm⟩
  exact (List.mem_append.mp member).elim (holds call) (holdsLater call)

end Replies

/-! ## What acts tell -/

/-- What an act tells, where standard output is as given. -/
def Act.notices (stdout : Stdout) : Act → List Notice
  | tell text => [.text text]
  | call trigger handle => (trigger handle stdout).events.map .event
  | _ => []

namespace Outside

theorem perform_notices (outside : Outside) (act : Act) :
    (outside.perform act).notices = outside.notices ++ act.notices outside.stdout := by
  have silent {after : Outside} (same : after.told = outside.told) :
      after.notices = outside.notices ++ [] := by rw [notices, same, List.append_nil, notices]
  cases act with
  | tell text => exact List.reverse_cons
  | print bytes => exact silent (print_sameBut (outside.ask .output) bytes).told
  | wait bytes => exact silent (wait_sameBut (outside.ask .output) bytes).told
  | flush => exact silent (flush_sameBut (outside.ask .output)).told
  | look => exact silent rfl
  | empty => exact silent outside.flush_sameBut.told
  | call trigger handle => simp [perform, follow_eq, notices, Act.notices, ask]

theorem performAll_notices (outside : Outside) (acts : List Act) :
    (outside.performAll acts).notices =
      outside.notices ++ acts.flatMap (Act.notices outside.stdout) := by
  induction acts generalizing outside with
  | nil => exact (List.append_nil _).symm
  | cons act rest ih =>
      change ((outside.perform act).performAll rest).notices = _
      rw [ih, perform_notices, (outside.perform_fixed act).1, List.flatMap_cons,
        List.append_assoc]

end Outside

namespace Replies

variable {has : Trigger → Prop}

/-- What is told of acts among which only such triggers are called. -/
theorem ofActs {acts : List Act} (known : ∀ act ∈ acts, act.Known has) (stdout : Stdout) :
    Replies has stdout ((acts.flatMap (Act.notices stdout)).filterMap Notice.event?) := by
  induction acts with
  | nil => exact nil
  | cons act rest ih =>
      rw [List.flatMap_cons, List.filterMap_append]
      refine append ?_ (ih fun act member => known act (List.mem_cons_of_mem _ member))
      cases act with
      | tell | print | wait | flush | look | empty => exact nil
      | call trigger handle =>
          have told : ((Act.call trigger handle).notices stdout).filterMap Notice.event? =
              (trigger handle stdout).events := by
            simp [Act.notices, List.filterMap_map, Function.comp_def, Notice.event?]
          rw [told]
          exact call (known _ List.mem_cons_self) handle

end Replies

namespace Process

/-- On the way from one process to another these events are told, besides some text. -/
structure Tells (before after : Process) (events : List Log.Event) : Prop where
  stdout_eq : after.outside.stdout = before.outside.stdout
  told : ∃ more, after.outside.notices = before.outside.notices ++ more ∧
    more.filterMap Notice.event? = events

namespace Tells

variable {first second third : Process} {events more : List Log.Event}

theorem trans (tells : Tells first second events) (tellsLater : Tells second third more) :
    Tells first third (events ++ more) := by
  obtain ⟨told, notices, rfl⟩ := tells.told
  obtain ⟨later, noticesLater, rfl⟩ := tellsLater.told
  refine ⟨tellsLater.stdout_eq.trans tells.stdout_eq, told ++ later, ?_, List.filterMap_append⟩
  rw [noticesLater, notices, List.append_assoc]

theorem of_silent (stdout_eq : second.outside.stdout = first.outside.stdout)
    (notices_eq : second.outside.notices = first.outside.notices) : Tells first second [] :=
  ⟨stdout_eq, [], by rw [notices_eq, List.append_nil], rfl⟩

theorem of_outside (same : second.outside = first.outside) : Tells first second [] :=
  of_silent (congrArg Outside.stdout same) (congrArg Outside.notices same)

theorem event (process : Process) (event : Log.Event) :
    Tells process (process.tell (.event event)) [event] :=
  ⟨rfl, [.event event], List.reverse_cons, rfl⟩

theorem follow (process : Process) (reply : Reply) :
    Tells process (process.follow reply) reply.events := by
  refine ⟨?_, reply.events.map .event, ?_, ?_⟩
  · rw [Process.follow, Outside.follow_eq]
  · simp [Process.follow, Outside.follow_eq, Outside.notices]
  · simp [List.filterMap_map, Function.comp_def, Notice.event?]

end Tells

/-- What is told on the way from one process to another is what such triggers reply. -/
def Relays (has : Trigger → Prop) (before after : Process) : Prop :=
  ∃ events, Replies has before.outside.stdout events ∧ before.Tells after events

variable {machine : Machine}

/-- Code that never turns to standard output calls no triggers. -/
theorem Proceeds.relays {before after : Process} (proceeds : Proceeds machine before after) :
    Relays (fun trigger => machine.Has trigger ∧ .output ∈ after.outside.asked) before after := by
  obtain ⟨acts, known, reached⟩ := proceeds.performed
  have called (act : Act) (member : act ∈ acts) :
      act.Known fun trigger => machine.Has trigger ∧ .output ∈ after.outside.asked := by
    cases act with
    | tell | print | wait | flush | look | empty => exact trivial
    | call trigger handle =>
        exact ⟨known _ member, reached ▸ Outside.asked_of_act member rfl⟩
  refine ⟨_, .ofActs called before.outside.stdout, proceeds.stdout_eq,
    acts.flatMap (Act.notices before.outside.stdout), ?_, rfl⟩
  rw [reached, Outside.performAll_notices]

/-! ## Calls from outside -/

theorem lend_acts (request : Request) :
    Acts machine (Act.Known machine.Has) (lend · request) :=
  .blind (fun _ runsOn _ member =>
    List.mem_singleton.mp member ▸ ⟨runsOn.onMachine, runsOn.offered⟩) fun _ _ => rfl

theorem takeBack_acts : Acts machine (Act.Known machine.Has) takeBack := by
  refine .blind (fun process runsOn after member => ?_) fun process outside => ?_
  · rw [List.mem_singleton.mp member]
    unfold takeBack
    split
    · exact runsOn
    · exact ⟨runsOn.onMachine, runsOn.offered⟩
  · change (process.facing outside).takeBack = process.takeBack.facing outside
    rcases isLent : process.lent with _ | lent <;>
      simp only [takeBack, facing, isLent] <;> rfl

/-- A request is lent, code is called with it, and the request is taken back. -/
theorem callCode_acts (address : UInt64) (request : Request) :
    Acts machine (Act.Known machine.Has) (Plugin.callCode · address request) := by
  have takes (answer : UInt64) : Acts machine (Act.Known machine.Has) fun process : Process =>
      (answer.toUInt32.toInt32, process.takeBack) :=
    .answer (fun _ _ => rfl) takeBack_acts
  have calls (handle : UInt64) : Acts machine (Act.Known machine.Has) fun process : Process =>
      ((process.call address [handle]).1.toUInt32.toInt32,
        (process.call address [handle]).2.takeBack) :=
    (call_acts address [handle]).use takes
  exact (lend_acts request).use calls

end Process

end PluginHost
