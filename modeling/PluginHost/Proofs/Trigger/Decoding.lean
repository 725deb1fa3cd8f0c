import PluginHost.Proofs.Trigger.Limits

/-!
# Reading the output back

The lines of a request mark no field, and any field may hold line feeds. How many of them method and
URI hold is all that is needed to cut what was written into the fields again.
-/

namespace PluginHost.RequestLogger

open Bytes (lineFeed)

variable {fields first second : Fields} {output front rest : Bytes}

def feeds (bytes : Bytes) : Nat := bytes.count lineFeed

/-- The bytes up to the line feed of the given number, and with it; all of them, if there are fewer
line feeds. -/
def upToFeed : Nat → Bytes → Bytes
  | 0, _ => []
  | _ + 1, [] => []
  | count + 1, byte :: rest =>
      byte :: upToFeed (if byte = lineFeed then count else count + 1) rest

/-- The output in three pieces, without the last byte of each. The first is cut off behind the line
feeds of the method and one more, the second behind those of the URI and another one. -/
def cut (inMethod inUri : Nat) (output : Bytes) : Fields :=
  let first := upToFeed (inMethod + 1) output
  let second := upToFeed (inMethod + inUri + 2) output
  ⟨first.dropLast, (second.drop first.length).dropLast, (output.drop second.length).dropLast⟩

/-- The output of writing the request with success, on some sink. -/
def Prints (fields : Fields) (output : Bytes) : Prop :=
  ∃ (σ : Type) (sink : Sink σ) (state : σ) (session : Session σ),
    writeRequest sink state fields = (.ok (), session) ∧ session.taken = output

theorem Prints.eq_lines (prints : Prints fields output) : output = lines fields := by
  obtain ⟨σ, sink, state, session, written, rfl⟩ := prints
  have attempt := writeRequest_attempt sink state fields
  rw [written] at attempt
  exact (attempt.ok_iff.mp rfl).1

/-- A sink with room for all lines lets a write succeed, if it can be flushed. -/
theorem prints_of_room {σ : Type} {sink : Sink σ} {limits : Limits} {view : σ → LimitedState}
    (keeps : sink.KeepsTo limits view) (state : σ) (fields : Fields)
    (fits : ∀ room ∈ (view state).room, (lines fields).length ≤ room)
    (flushes : limits.flushError = none) : Prints fields (lines fields) := by
  refine ⟨σ, sink, state, (writeRequest sink state fields).2, ?_⟩
  rcases written_cases keeps state fields with ⟨-, same⟩ | ⟨room, isRoom, short, -⟩
  · rw [written, Written.mk.injEq, flushes] at same
    exact ⟨Prod.ext same.2.2 rfl, same.1⟩
  · exact absurd (fits room isRoom) (Nat.not_le.mpr short)

theorem feeds_cons (byte : UInt8) (bytes : Bytes) :
    feeds (byte :: bytes) = feeds bytes + if byte = lineFeed then 1 else 0 := by
  simp [feeds, List.count_cons]

theorem feeds_eq_zero_iff {bytes : Bytes} : feeds bytes = 0 ↔ lineFeed ∉ bytes :=
  List.count_eq_zero

theorem upToFeed_zero (bytes : Bytes) : upToFeed 0 bytes = [] := by rw [upToFeed]

/-- A line is passed first, with the line feeds that it holds. -/
theorem upToFeed_line (front rest : Bytes) (count : Nat) :
    upToFeed (feeds front + count + 1) (front ++ lineFeed :: rest) =
      front ++ lineFeed :: upToFeed count rest := by
  induction front with
  | nil =>
      rw [feeds, List.count_nil, Nat.zero_add, List.nil_append, upToFeed, if_pos rfl]
      rfl
  | cons byte front ih =>
      rw [List.cons_append, upToFeed, List.cons_append, ← ih, feeds_cons]
      by_cases isFeed : byte = lineFeed
      · simp only [if_pos isFeed, Nat.add_right_comm]
      · simp only [if_neg isFeed, Nat.add_zero]

theorem upToFeed_first (front rest : Bytes) :
    upToFeed (feeds front + 1) (front ++ lineFeed :: rest) = front ++ [lineFeed] := by
  have line := upToFeed_line front rest 0
  rwa [Nat.add_zero, upToFeed_zero] at line

theorem lines_eq (fields : Fields) : lines fields =
    fields.method ++ lineFeed :: (fields.uri ++ lineFeed :: (fields.body ++ [lineFeed])) := by
  simp [lines]

theorem cut_lines (fields : Fields) :
    cut (feeds fields.method) (feeds fields.uri) (lines fields) = fields := by
  have second : upToFeed (feeds fields.method + feeds fields.uri + 2) (lines fields) =
      fields.method ++ lineFeed :: (fields.uri ++ [lineFeed]) := by
    have passed := upToFeed_line fields.method
      (fields.uri ++ lineFeed :: (fields.body ++ [lineFeed])) (feeds fields.uri + 1)
    rwa [upToFeed_first, ← lines_eq] at passed
  rw [cut, second, lines_eq, upToFeed_first]
  simp

/-- The line feeds of a line tell where it ends. -/
theorem line_unique {line other later : Bytes} (alike : feeds line = feeds other)
    (same : line ++ lineFeed :: rest = other ++ lineFeed :: later) :
    line = other ∧ rest = later := by
  have ends := upToFeed_first line rest
  rw [same, alike, upToFeed_first] at ends
  obtain rfl := List.append_cancel_right ends
  exact ⟨rfl, List.cons_inj_right lineFeed |>.mp (List.append_cancel_left same)⟩

theorem fields_of_lines {line next : Bytes} (inMethod : feeds fields.method = feeds line)
    (inUri : feeds fields.uri = feeds next)
    (whole : lines fields = line ++ lineFeed :: (next ++ lineFeed :: rest)) :
    fields.method = line ∧ fields.uri = next ∧ fields.body ++ [lineFeed] = rest := by
  rw [lines_eq] at whole
  obtain ⟨method, later⟩ := line_unique inMethod whole
  obtain ⟨uri, body⟩ := line_unique inUri later
  exact ⟨method, uri, body⟩

/-- Cut behind the line feeds of the method and one more, and behind those of the URI and another
one, the output gives back the fields. So requests with as many line feeds in their methods, and as
many in their URIs, are written differently; and if there are none in either, the first two lines
are method and URI, and the rest is the body with a line feed behind it. -/
theorem output_tells_fields :
    (∀ fields output, Prints fields output →
        cut (feeds fields.method) (feeds fields.uri) output = fields) ∧
      (∀ first second output, Prints first output → Prints second output →
        feeds first.method = feeds second.method → feeds first.uri = feeds second.uri →
        first = second) ∧
      ∀ fields output, Prints fields output → lineFeed ∉ fields.method → lineFeed ∉ fields.uri →
        ∀ line next rest, lineFeed ∉ line → lineFeed ∉ next →
          output = line ++ lineFeed :: (next ++ lineFeed :: rest) →
          fields.method = line ∧ fields.uri = next ∧ fields.body ++ [lineFeed] = rest := by
  refine ⟨fun fields output prints => ?_, fun first second output prints printsToo methods uris => ?_,
    fun fields output prints inMethod inUri line next rest inLine inNext whole => ?_⟩
  · rw [prints.eq_lines, cut_lines]
  · rw [← cut_lines first, methods, uris, ← prints.eq_lines, printsToo.eq_lines, cut_lines]
  · rw [prints.eq_lines] at whole
    rw [← feeds_eq_zero_iff] at inMethod inUri inLine inNext
    exact fields_of_lines (inMethod.trans inLine.symm) (inUri.trans inNext.symm) whole

/-- One output of two requests, of which only the first has a line feed in its method. It is taken
by two bytes at most, and after three interruptions. -/
theorem output_tells_fields_feeds :
    let output : Bytes := [10, 71, 10, 10, 10, 10, 10]
    let broken : Fields := ⟨[10, 71], [], [10, 10]⟩
    let plain : Fields := ⟨[], [71], [10, 10, 10]⟩
    Prints broken output ∧ Prints plain output ∧ cut 1 0 output = broken ∧
      cut 0 0 output = plain ∧ plain.body ++ [10] = [10, 10, 10, 10] := by
  intro output broken plain
  have keeps : (Limits.mk (some 2) none none).sink.KeepsTo ⟨some 2, none, none⟩ id :=
    Limits.sink_keepsTo (by decide)
  have room (fields : Fields) : Prints fields (lines fields) :=
    prints_of_room keeps ⟨none, 3⟩ fields (fun room impossible => by cases impossible) rfl
  obtain ⟨cuts, unique, first⟩ := output_tells_fields
  have plainLines := first plain output (room plain) (by decide) (by decide) [] [71]
    [10, 10, 10, 10] (by decide) (by decide) rfl
  exact ⟨room broken, room plain,
    unique (cut 1 0 output) broken output (room broken) (room broken) rfl rfl,
    cuts plain output (room plain), plainLines.2.2⟩

end PluginHost.RequestLogger
