import PluginHost.Proofs.Outcome
import PluginHost.Request.Handle

/-!
# Requests without NUL

Building accepts exactly the parts that hold no NUL, and keeps them. So a string that is read from
an address up to its first NUL is the whole field.
-/

namespace PluginHost

open PluginHost.Outcome (bind_eq_ok)

namespace Bytes

theorem firstNul?_eq_none_iff (bytes : Bytes) : firstNul? bytes = none ↔ 0 ∉ bytes := by
  rw [firstNul?, List.findIdx?_eq_none_iff]
  constructor
  · intro noNul member
    exact absurd (noNul 0 member) (by decide)
  · intro noNul byte member
    exact beq_eq_false_iff_ne.mpr fun same => noNul (same ▸ member)

theorem firstNul?_append_nul {before : Bytes} (noNul : 0 ∉ before) (after : Bytes) :
    firstNul? (before ++ 0 :: after) = some before.length := by
  have passed : before.findIdx? (· == 0) = none := (firstNul?_eq_none_iff before).mpr noNul
  rw [firstNul?, List.findIdx?_append, passed, List.findIdx?_cons]
  simp

/-- The first NUL stands where the bytes before it hold none. -/
theorem firstNul?_eq_some_iff {bytes : Bytes} {position : Nat} :
    firstNul? bytes = some position ↔
      ∃ before after, bytes = before ++ 0 :: after ∧ 0 ∉ before ∧ before.length = position := by
  constructor
  · intro found
    by_cases member : 0 ∈ bytes
    · obtain ⟨before, after, rfl, noNul⟩ := List.eq_append_cons_of_mem member
      rw [firstNul?_append_nul noNul] at found
      exact ⟨before, after, rfl, noNul, Option.some.inj found⟩
    · rw [(firstNul?_eq_none_iff bytes).mpr member] at found
      cases found
  · rintro ⟨before, after, rfl, noNul, rfl⟩
    exact firstNul?_append_nul noNul after

theorem untilNul_append_nul {bytes : Bytes} (noNul : 0 ∉ bytes) (rest : Bytes) :
    untilNul (bytes ++ 0 :: rest) = bytes := by
  have passes (byte : UInt8) (member : byte ∈ bytes) : (byte != 0) = true :=
    bne_iff_ne.mpr fun same => noNul (same ▸ member)
  rw [untilNul, List.takeWhile_append_of_pos passes]
  exact List.append_nil bytes

end Bytes

namespace Request

theorem checkField_eq_ok_iff {field : Field} {bytes checked : Bytes} :
    checkField field bytes = .ok checked ↔ 0 ∉ bytes ∧ bytes = checked := by
  rw [← Bytes.firstNul?_eq_none_iff, checkField]
  cases Bytes.firstNul? bytes with
  | none => simp
  | some position => simp

theorem checkField_eq_error_iff {field : Field} {bytes : Bytes} {error : RequestError} :
    checkField field bytes = .error error ↔
      ∃ position, Bytes.firstNul? bytes = some position ∧ .interiorNul field position = error := by
  rw [checkField]
  cases Bytes.firstNul? bytes with
  | none => simp
  | some position => simp

theorem build_eq_ok_iff {method uri body : Bytes} {request : Request} :
    build method uri body = .ok request ↔
      (0 ∉ method ∧ 0 ∉ uri ∧ 0 ∉ body) ∧ ⟨method, uri, .empty, body⟩ = request := by
  simp only [build, bind_eq_ok, checkField_eq_ok_iff, pure, Except.pure, Except.ok.injEq]
  constructor
  · rintro ⟨_, ⟨inMethod, rfl⟩, _, ⟨inUri, rfl⟩, _, ⟨inBody, rfl⟩, built⟩
    exact ⟨⟨inMethod, inUri, inBody⟩, built⟩
  · rintro ⟨⟨inMethod, inUri, inBody⟩, built⟩
    exact ⟨_, ⟨inMethod, rfl⟩, _, ⟨inUri, rfl⟩, _, ⟨inBody, rfl⟩, built⟩

theorem withHeader_eq_ok_iff {request after : Request} {name : String} {value : Bytes} :
    request.withHeader name value = .ok after ↔ (0 ∉ storedName name ∧ 0 ∉ value) ∧
      { request with headers := request.headers.insert (storedName name) value } = after := by
  simp only [withHeader, bind_eq_ok, checkField_eq_ok_iff, pure, Except.pure, Except.ok.injEq]
  constructor
  · rintro ⟨_, ⟨inName, rfl⟩, _, ⟨inValue, rfl⟩, same⟩
    exact ⟨⟨inName, inValue⟩, same⟩
  · rintro ⟨⟨inName, inValue⟩, same⟩
    exact ⟨_, ⟨inName, rfl⟩, _, ⟨inValue, rfl⟩, same⟩

/-- The first of several headers is added, and the others to what comes of it. -/
theorem withHeaders_cons_eq_ok_iff {request after : Request} {header : String × Bytes}
    {rest : List (String × Bytes)} :
    request.withHeaders (header :: rest) = .ok after ↔
      (0 ∉ storedName header.1 ∧ 0 ∉ header.2) ∧
        withHeaders { request with
          headers := request.headers.insert (storedName header.1) header.2 } rest = .ok after := by
  constructor
  · intro added
    obtain ⟨middle, first, later⟩ := bind_eq_ok.mp added
    obtain ⟨nulFree, rfl⟩ := withHeader_eq_ok_iff.mp first
    exact ⟨nulFree, later⟩
  · rintro ⟨nulFree, later⟩
    exact bind_eq_ok.mpr ⟨_, withHeader_eq_ok_iff.mpr ⟨nulFree, rfl⟩, later⟩

/-- Adding headers leaves the other parts as they are. -/
theorem withHeaders_keeps {request after : Request} {headers : List (String × Bytes)}
    (added : request.withHeaders headers = .ok after) :
    after.method = request.method ∧ after.uri = request.uri ∧ after.body = request.body := by
  induction headers generalizing request with
  | nil => cases added; exact ⟨rfl, rfl, rfl⟩
  | cons header rest ih =>
      obtain ⟨_, later⟩ := withHeaders_cons_eq_ok_iff.mp added
      have kept := ih later
      exact kept

end Request

namespace Pointer

theorem string?_terminated {bytes : Bytes} (noNul : 0 ∉ bytes) :
    (terminated bytes).string? = some bytes := by
  rw [terminated, string?, Option.map_some, Bytes.untilNul_append_nul noNul]

end Pointer

/-- The fields that are read through a handle are those of the request behind it. -/
theorem Handle.fields_some {request : Request} (inMethod : 0 ∉ request.method)
    (inUri : 0 ∉ request.uri) (inBody : 0 ∉ request.body) :
    Handle.fields (some request) = ⟨request.method, request.uri, request.body⟩ := by
  simp only [Handle.fields, Handle.method, Handle.uri, Handle.body, Option.bind_some,
    Pointer.string?_terminated inMethod, Pointer.string?_terminated inUri,
    Pointer.string?_terminated inBody, Option.getD_some]

theorem Handle.fields_none : Handle.fields none = ⟨[], [], []⟩ := rfl

/-- What a request is built from. -/
structure Draft where
  method : Bytes
  uri : Bytes
  body : Bytes
  headers : List (String × Bytes)

namespace Draft

def fields (draft : Draft) : Fields := ⟨draft.method, draft.uri, draft.body⟩

def build (draft : Draft) : Except RequestError Request := do
  let request ← Request.build draft.method draft.uri draft.body
  request.withHeaders draft.headers

theorem build_eq_ok_iff {draft : Draft} {request : Request} :
    draft.build = .ok request ↔ (0 ∉ draft.method ∧ 0 ∉ draft.uri ∧ 0 ∉ draft.body) ∧
      Request.withHeaders ⟨draft.method, draft.uri, .empty, draft.body⟩ draft.headers =
        .ok request := by
  constructor
  · intro built
    obtain ⟨bare, first, added⟩ := bind_eq_ok.mp built
    obtain ⟨inFields, rfl⟩ := Request.build_eq_ok_iff.mp first
    exact ⟨inFields, added⟩
  · rintro ⟨inFields, added⟩
    exact bind_eq_ok.mpr ⟨_, Request.build_eq_ok_iff.mpr ⟨inFields, rfl⟩, added⟩

/-- The fields of what is built are those it is built from. -/
theorem build_keeps {draft : Draft} {request : Request} (built : draft.build = .ok request) :
    request.method = draft.method ∧ request.uri = draft.uri ∧ request.body = draft.body :=
  Request.withHeaders_keeps (build_eq_ok_iff.mp built).2

/-- What a trigger reads of a request are the bytes from which it was built. -/
theorem fields_of_build {draft : Draft} {request : Request} (built : draft.build = .ok request) :
    Handle.fields (some request) = draft.fields := by
  obtain ⟨inMethod, inUri, inBody⟩ := (build_eq_ok_iff.mp built).1
  obtain ⟨method, uri, body⟩ := build_keeps built
  rw [Handle.fields_some (method ▸ inMethod) (uri ▸ inUri) (body ▸ inBody), method, uri, body]
  rfl

end Draft

end PluginHost
