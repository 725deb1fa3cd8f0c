import PluginHost.Proofs.Request.LastGiven

/-!
# Equal requests

Two requests are equal exactly if a trigger cannot tell them apart: it reads the same fields, and
under every key the same header. So neither the order in which headers were added nor the letters
of their names show, but only the last value under each name.
-/

namespace PluginHost

open PluginHost.Text
open PluginHost.Outcome (bind_eq_ok)

namespace Request

variable {first second request : Request}

/-- All that can be read of two requests through their handles is the same. -/
structure Indistinguishable (first second : Request) : Prop where
  method : (Handle.method (some first)).string? = (Handle.method (some second)).string?
  uri : (Handle.uri (some first)).string? = (Handle.uri (some second)).string?
  body : (Handle.body (some first)).string? = (Handle.body (some second)).string?
  header : ∀ key, (Handle.header (some first) (Pointer.terminated key)).string? =
    (Handle.header (some second) (Pointer.terminated key)).string?

/-- Equal fields, and the same headers in whatever order. -/
theorem Sound.beq_iff (soundFirst : Sound first) (soundSecond : Sound second) :
    (first == second) = true ↔ (first.method = second.method ∧ first.uri = second.uri ∧
      first.body = second.body) ∧
        ∀ entry, entry ∈ first.headers.entries ↔ entry ∈ second.headers.entries := by
  change first.same second = true ↔ _
  rw [← HeaderTable.same_iff soundFirst.distinct soundSecond.distinct, Request.same]
  simp only [Bool.and_eq_true, beq_iff_eq, and_assoc]

/-- The headers of a request are those that are found under names that can be stored. -/
theorem Sound.mem_entries_iff (sound : Sound request) (entry : Bytes × Bytes) :
    entry ∈ request.headers.entries ↔ IsStoredName entry.1 ∧
      (Handle.header (some request) (Pointer.terminated entry.1)).string? = some entry.2 := by
  constructor
  · intro held
    have stored := sound.names entry held
    exact ⟨stored, sound.header_of_mem held stored.lower_eq⟩
  · rintro ⟨stored, found⟩
    rw [sound.header_terminated stored.nulFree, stored.lower_eq] at found
    exact (HeaderTable.find?_eq_some_iff sound.distinct).mp found

/-- What is found in a table does not depend on the order of its entries. -/
theorem Sound.find?_eq (soundFirst : Sound first) (soundSecond : Sound second)
    (same : ∀ entry, entry ∈ first.headers.entries ↔ entry ∈ second.headers.entries)
    (name : Bytes) : first.headers.find? name = second.headers.find? name := by
  ext value
  rw [HeaderTable.find?_eq_some_iff soundFirst.distinct, same,
    HeaderTable.find?_eq_some_iff soundSecond.distinct]

theorem beq_iff_indistinguishable (soundFirst : Sound first) (soundSecond : Sound second) :
    (first == second) = true ↔ Indistinguishable first second := by
  rw [soundFirst.beq_iff soundSecond]
  constructor
  · rintro ⟨⟨method, uri, body⟩, same⟩
    refine ⟨?_, ?_, ?_, fun key => ?_⟩
    · rw [soundFirst.method_string?, soundSecond.method_string?, method]
    · rw [soundFirst.uri_string?, soundSecond.uri_string?, uri]
    · rw [soundFirst.body_string?, soundSecond.body_string?, body]
    · rw [soundFirst.header_string?, soundSecond.header_string?]
      exact congrArg _ (funext fun name => soundFirst.find?_eq soundSecond same _)
  · rintro ⟨method, uri, body, header⟩
    rw [soundFirst.method_string?, soundSecond.method_string?, Option.some.injEq] at method
    rw [soundFirst.uri_string?, soundSecond.uri_string?, Option.some.injEq] at uri
    rw [soundFirst.body_string?, soundSecond.body_string?, Option.some.injEq] at body
    refine ⟨⟨method, uri, body⟩, fun entry => ?_⟩
    rw [soundFirst.mem_entries_iff, soundSecond.mem_entries_iff, header]

end Request

namespace Draft

open Request (Reachable Sound IsStoredName lastValue? storedName)

variable {draft : Draft} {request : Request}

theorem reachable (built : draft.build = .ok request) : Reachable request := by
  obtain ⟨bare, first, added⟩ := bind_eq_ok.mp built
  exact .withHeaders (.build first) added

/-- What is found in the end is what was given last. -/
theorem find?_build (built : draft.build = .ok request) (key : Bytes) :
    request.headers.find? (Bytes.lower key) = lastValue? draft.headers key := by
  rw [Request.find?_withHeaders (build_eq_ok_iff.mp built).2]
  exact Option.or_none

theorem mem_entries_iff (built : draft.build = .ok request) (entry : Bytes × Bytes) :
    entry ∈ request.headers.entries ↔
      IsStoredName entry.1 ∧ lastValue? draft.headers entry.1 = some entry.2 := by
  have sound := (reachable built).sound
  rw [sound.mem_entries_iff]
  refine and_congr_right fun stored => ?_
  rw [sound.header_terminated stored.nulFree, find?_build built]

/-- Of requests with the same fields, those are equal whose headers, under each name in small
letters, were given the same value last. -/
theorem beq_iff {first second : Draft} {one other : Request} (builtFirst : first.build = .ok one)
    (builtSecond : second.build = .ok other) (fields : first.fields = second.fields) :
    (one == other) = true ↔ ∀ name, (∀ byte ∈ name, ¬ Bytes.IsCapital byte) →
      lastValue? first.headers name = lastValue? second.headers name := by
  have soundFirst := (reachable builtFirst).sound
  have soundSecond := (reachable builtSecond).sound
  obtain ⟨method, uri, body⟩ := build_keeps builtFirst
  obtain ⟨otherMethod, otherUri, otherBody⟩ := build_keeps builtSecond
  obtain ⟨sameMethod, sameUri, sameBody⟩ := Fields.mk.inj fields
  rw [soundFirst.beq_iff soundSecond, method, uri, body, otherMethod, otherUri, otherBody]
  constructor
  · rintro ⟨_, same⟩ name small
    rw [← find?_build builtFirst, ← find?_build builtSecond]
    exact soundFirst.find?_eq soundSecond same _
  · intro same
    refine ⟨⟨sameMethod, sameUri, sameBody⟩, fun entry => ?_⟩
    rw [mem_entries_iff builtFirst, mem_entries_iff builtSecond]
    exact and_congr_right fun stored => by rw [same entry.1 stored.small]

end Draft

namespace Request

/-- A list of headers gives no value under a name in small letters if it does not contain it. -/
theorem exists_storedName_iff {headers : List (String × Bytes)} {name : Bytes}
    (small : ∀ byte ∈ name, ¬ Bytes.IsCapital byte) :
    (∃ header ∈ headers, storedName header.1 = name) ↔ lastValue? headers name ≠ none := by
  rw [Ne, lastValue?_eq_none_iff]
  simp only [← storedName_eq_lower_iff, Bytes.lower_of_not_isCapital small, not_forall, not_not,
    exists_prop]

/-- Requests are equal exactly if their handles cannot be told apart. In particular, requests with
the same fields are equal exactly if under each name in small letters both were given headers or
neither was, and the same value last. -/
theorem equal_iff_indistinguishable :
    (∀ first second, Reachable first → Reachable second →
      ((first == second) = true ↔ Indistinguishable first second)) ∧
      ∀ (method uri body : Bytes) (headers others : List (String × Bytes)) (first second : Request),
        (⟨method, uri, body, headers⟩ : Draft).build = .ok first →
        (⟨method, uri, body, others⟩ : Draft).build = .ok second →
        ((first == second) = true ↔ ∀ name, (∀ byte ∈ name, ¬ Bytes.IsCapital byte) →
          ((∃ header ∈ headers, storedName header.1 = name) ↔
            ∃ header ∈ others, storedName header.1 = name) ∧
          lastValue? headers name = lastValue? others name) := by
  refine ⟨fun first second reachedFirst reachedSecond => ?_, ?_⟩
  · exact beq_iff_indistinguishable reachedFirst.sound reachedSecond.sound
  · intro method uri body headers others first second builtFirst builtSecond
    rw [Draft.beq_iff builtFirst builtSecond rfl]
    refine forall_congr' fun name => imp_congr_right fun small => ?_
    rw [exists_storedName_iff small, exists_storedName_iff small]
    constructor
    · intro same
      exact ⟨by rw [same], same⟩
    · exact And.right

/-- A value that was replaced, another order and other letters do not show. -/
theorem equal_iff_indistinguishable_reordered :
    ∃ first second : Request,
      (⟨[71], [47], [], [("Host", [65]), ("x", [66]), ("HOST", [67])]⟩ : Draft).build = .ok first ∧
      (⟨[71], [47], [], [("X", [66]), ("host", [67])]⟩ : Draft).build = .ok second ∧
      (first == second) = true ∧ Indistinguishable first second ∧
      lastValue? [("Host", [65]), ("x", [66]), ("HOST", [67])] [104, 111, 115, 116] =
        lastValue? [("X", [66]), ("host", [67])] [104, 111, 115, 116] := by
  obtain ⟨whole, lists⟩ := equal_iff_indistinguishable
  let first : Request := ⟨[71], [47], ⟨[([104, 111, 115, 116], [67]), ([120], [66])]⟩, []⟩
  let second : Request := ⟨[71], [47], ⟨[([120], [66]), ([104, 111, 115, 116], [67])]⟩, []⟩
  have builtFirst :
    (⟨[71], [47], [], [("Host", [65]), ("x", [66]), ("HOST", [67])]⟩ : Draft).build =
    .ok first := rfl
  have builtSecond : (⟨[71], [47], [], [("X", [66]), ("host", [67])]⟩ : Draft).build =
    .ok second := rfl
  have equal : (first == second) = true := by decide
  refine ⟨first, second, builtFirst, builtSecond, equal, ?_, ?_⟩
  · exact (whole _ _ (Draft.reachable builtFirst) (Draft.reachable builtSecond)).mp equal
  · have same := (lists _ _ _ _ _ _ _ builtFirst builtSecond).mp equal
    exact (same [104, 111, 115, 116] (by simp [Bytes.IsCapital])).2

end Request

end PluginHost
