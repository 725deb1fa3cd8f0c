import PluginHost.Machine
import PluginHost.Plugin
import PluginHost.Process.Start
import PluginHost.Proofs.Request.NulFree
import PluginHost.Proofs.Trigger.Echo

/-!
# Requests handed over in succession

A host builds requests and hands them to the request logger one after the other: it calls the
trigger itself, or a plugin that holds the trigger. What comes out on standard output are the lines
of each request in turn, made of the very bytes from which it was built.
-/

namespace PluginHost

namespace Stdout

/-- A standard output that accepts everything takes a byte string by one call. -/
theorem accepting_writeAll (session : Session Unit) (bytes : Bytes) :
    (session.writeAll accepting.sink bytes).1 = .ok () := by
  cases bytes with
  | nil => rw [Session.writeAll]
  | cons first rest =>
      have answered : accepting.sink.write session.state (first :: rest) =
        (.accepted (rest.length + 1), ()) := rfl
      rw [Session.writeAll]
      split
      · next after other => cases answered.symm.trans other
      · next error after other => cases answered.symm.trans other
      · next after other => cases answered.symm.trans other
      · next count after other =>
          cases answered.symm.trans other
          rw [List.drop_length, Session.writeAll]

theorem accepting_writeEach (session : Session Unit) (parts : List Bytes) :
    (session.writeEach accepting.sink parts).1 = .ok () := by
  induction parts generalizing session with
  | nil => rfl
  | cons bytes parts ih =>
      rw [Session.writeEach]
      have written := accepting_writeAll session bytes
      rcases outcome : session.writeAll accepting.sink bytes with ⟨result, middle⟩
      rw [outcome] at written
      cases written
      exact ih middle

end Stdout

namespace RequestLogger

theorem accepting_writeRequest (fields : Fields) :
    (writeRequest Stdout.accepting.sink () fields).1 = .ok () := by
  rw [writeRequest]
  have written := Stdout.accepting_writeEach (.start ()) (parts fields)
  rcases outcome : (Session.start ()).writeEach Stdout.accepting.sink (parts fields) with
    ⟨result, middle⟩
  rw [outcome] at written
  cases written
  rfl

/-- What the trigger does where standard output accepts everything. -/
theorem trigger_accepting (handle : Handle) :
    trigger handle .accepting = ⟨0, lines handle.fields, [.triggerInvoked]⟩ := by
  have written := accepting_writeRequest handle.fields
  have attempt := writeRequest_attempt Stdout.accepting.sink () handle.fields
  have taken := (attempt.ok_iff.mp written).1
  rw [trigger, echo]
  rcases outcome : writeRequest Stdout.accepting.sink () handle.fields with ⟨result, session⟩
  rw [outcome] at written taken
  cases written
  simp only [← taken]
  rfl

end RequestLogger

/-- A request with what it was built from. -/
structure Built where
  draft : Draft
  request : Request
  isBuilt : draft.build = .ok request

/-- One turn of a host: it hands over a null handle, or a request to the trigger itself, or a
request to a plugin that holds the trigger. -/
inductive Turn where
  | null
  | direct (built : Built)
  | invoked (plugin : Plugin) (isLogger : plugin.callee = .service (.trigger RequestLogger.trigger))
      (built : Built)

namespace Turn

def handle : Turn → Handle
  | null => none
  | direct built | invoked _ _ built => some built.request

/-- The bytes that were given for the fields; for a null handle there are none. -/
def given : Turn → Fields
  | null => ⟨[], [], []⟩
  | direct built | invoked _ _ built => built.draft.fields

/-- Let the trigger have its turn in a process; tell its status. -/
def take (process : Process) : Turn → Int32 × Process
  | invoked plugin _ built => plugin.invoke process built.request
  | turn =>
      let reply := RequestLogger.trigger turn.handle process.outside.stdout
      (reply.status, process.follow reply)

/-- Take turns, first to last. -/
def takeAll (process : Process) : List Turn → List Int32 × Process
  | [] => ([], process)
  | turn :: rest =>
      let (status, process) := turn.take process
      let (statuses, process) := takeAll process rest
      (status :: statuses, process)

theorem handle_fields (turn : Turn) : turn.handle.fields = turn.given := by
  cases turn with
  | null => exact Handle.fields_none
  | direct built => exact Draft.fields_of_build built.isBuilt
  | invoked plugin isLogger built => exact Draft.fields_of_build built.isBuilt

/-- A plugin that holds the trigger does the same as the trigger itself. -/
theorem take_eq (process : Process) (turn : Turn) :
    turn.take process =
      ((RequestLogger.trigger turn.handle process.outside.stdout).status,
        process.follow (RequestLogger.trigger turn.handle process.outside.stdout)) := by
  cases turn with
  | null => rfl
  | direct built => rfl
  | invoked plugin isLogger built => simp only [take, handle, Plugin.invoke, isLogger]

/-- One turn prints the lines of the bytes given, behind what was printed before. -/
theorem take_accepting {process : Process} (accepts : process.outside.stdout = .accepting)
    (turn : Turn) :
    (turn.take process).1 = 0 ∧ (turn.take process).2.outside.stdout = .accepting ∧
      (turn.take process).2.outside.printed =
        process.outside.printed ++ RequestLogger.lines turn.given := by
  rw [take_eq, accepts, RequestLogger.trigger_accepting, handle_fields]
  refine ⟨rfl, accepts, ?_⟩
  simp [Process.follow, Outside.follow, Outside.tell, Outside.printed]

/-- The request logger reads the bytes from which each request was built, always succeeds, and
prints the lines of all requests in the order in which they are handed over. -/
theorem takeAll_prints_given_bytes (process : Process)
    (accepts : process.outside.stdout = .accepting) (turns : List Turn) :
    (∀ turn ∈ turns, turn.handle.fields = turn.given) ∧
      (takeAll process turns).1 = turns.map (fun _ => 0) ∧
      (takeAll process turns).2.outside.printed =
        (process.outside.printed ++ turns.flatMap fun turn => RequestLogger.lines turn.given) ∧
      RequestLogger.lines null.given = List.replicate 3 Bytes.lineFeed := by
  refine ⟨fun turn _ => turn.handle_fields, ?_⟩
  induction turns generalizing process with
  | nil => exact ⟨rfl, (List.append_nil _).symm, rfl⟩
  | cons turn rest ih =>
      obtain ⟨status, still, printed⟩ := take_accepting accepts turn
      obtain ⟨statuses, printedLater, _⟩ := ih _ still
      refine ⟨?_, ?_, rfl⟩
      · rw [takeAll, List.map_cons, ← statuses, ← status]
      · rw [List.flatMap_cons, ← List.append_assoc, ← printed]
        exact printedLater

/-- A request whose URI ends in a line feed and whose body is no text. -/
def awkward : Built where
  draft := ⟨[71, 69, 84], [47, 10], [0xFF, 0xC3], [("Host", [10]), ("hOST", [])]⟩
  request := ⟨[71, 69, 84], [47, 10], ⟨[([104, 111, 115, 116], [])]⟩, [0xFF, 0xC3]⟩
  isBuilt := by rfl

/-- Three turns in a process that has just been set up. -/
theorem takeAll_prints_given_bytes_awkward :
    let process := Process.bare Machine.bare [] (.initial .accepting [])
    let logger : Plugin := ⟨[], 0, .service (.trigger RequestLogger.trigger)⟩
    let turns := [.direct awkward, .null, .invoked logger rfl awkward]
    process.outside.stdout = .accepting ∧
      (takeAll process turns).1 = [0, 0, 0] ∧
      (takeAll process turns).2.outside.printed =
        [71, 69, 84, 10, 47, 10, 10, 0xFF, 0xC3, 10] ++ [10, 10, 10] ++
          [71, 69, 84, 10, 47, 10, 10, 0xFF, 0xC3, 10] := by
  intro process logger turns
  obtain ⟨_, statuses, printed, _⟩ := takeAll_prints_given_bytes process rfl turns
  exact ⟨rfl, statuses, printed⟩

end Turn

end PluginHost
