import PluginHost.Proofs.Request.UnreadableHeaders
import PluginHost.Proofs.Text.Utf8.Faults

/-!
# Reading parts of a request as text

Method, URI and body are read as the text that they encode. Where they encode none, the error bears
the label of the part, and its fault describes the bytes from which the request was built. So does
the error of a header whose value is no text.
-/

namespace PluginHost

open PluginHost.Text

namespace Request

variable {fields : Fields} {request : Request}

/-- A request, and the method, URI and body from which it was built. -/
inductive BuiltFrom (fields : Fields) : Request → Prop where
  | build {request : Request}
      (built : Request.build fields.method fields.uri fields.body = .ok request) :
      BuiltFrom fields request
  | withHeader {before request : Request} {name : String} {value : Bytes}
      (reached : BuiltFrom fields before) (added : before.withHeader name value = .ok request) :
      BuiltFrom fields request
  | withHeaders {before request : Request} {headers : List (String × Bytes)}
      (reached : BuiltFrom fields before) (added : before.withHeaders headers = .ok request) :
      BuiltFrom fields request
  | clone {request : Request} {entries : List (Bytes × Bytes)} (reached : BuiltFrom fields request)
      (same : entries.Perm request.headers.entries) :
      BuiltFrom fields { request with headers := ⟨entries⟩ }

theorem reachable_iff_builtFrom : Reachable request ↔ ∃ fields, BuiltFrom fields request := by
  constructor
  · intro reached
    induction reached with
    | @build method uri body _ built => exact ⟨⟨method, uri, body⟩, .build built⟩
    | withHeader _ added ih => exact ih.imp fun _ before => .withHeader before added
    | withHeaders _ added ih => exact ih.imp fun _ before => .withHeaders before added
    | clone _ same ih => exact ih.imp fun _ before => .clone before same
  · rintro ⟨fields, built⟩
    induction built with
    | build built => exact .build built
    | withHeader _ added ih => exact ih.withHeader added
    | withHeaders _ added ih => exact ih.withHeaders added
    | clone _ same ih => exact ih.clone same

/-- Adding headers and cloning leave the fields as they were given. -/
theorem BuiltFrom.fields_eq (built : BuiltFrom fields request) :
    ⟨request.method, request.uri, request.body⟩ = fields := by
  induction built with
  | build built =>
      obtain ⟨_, rfl⟩ := build_eq_ok_iff.mp built
      rfl
  | withHeader _ added ih =>
      obtain ⟨_, rfl⟩ := withHeader_eq_ok_iff.mp added
      exact ih
  | withHeaders _ added ih =>
      obtain ⟨method, uri, body⟩ := withHeaders_keeps added
      rw [method, uri, body]
      exact ih
  | clone _ _ ih => exact ih

/-- The outcome is the text that the bytes encode, or tells under the label why they encode none. -/
structure ReadsExactly (label : String) (bytes : Bytes)
    (outcome : Except RequestError String) : Prop where
  text_iff : ∀ text, outcome = .ok text ↔ Utf8.encode text = bytes
  ok_iff : (∃ text, outcome = .ok text) ↔ Utf8.WellFormed bytes
  error_iff : ∀ error, outcome = .error error ↔ ∃ fault, .invalidText label fault = error ∧
    ¬ Utf8.WellFormed bytes ∧ Utf8.Describes bytes fault
  bounds : ∀ index length, outcome = .error (.invalidText label (.invalid index length)) →
    1 ≤ length ∧ length ≤ 3 ∧ index + length ≤ bytes.length

theorem readText_readsExactly (label : String) (bytes : Bytes) :
    ReadsExactly label bytes (readText label bytes) where
  text_iff text := readText_eq_ok_iff
  ok_iff := by
    simp only [readText_eq_ok_iff, Utf8.wellFormed_iff]
  error_iff error := by
    simp only [readText_eq_error_iff, Utf8.decode_eq_error_iff, and_comm]
  bounds index length fails := by
    obtain ⟨_, faulty, ⟨⟩⟩ := readText_eq_error_iff.mp fails
    exact (Utf8.decode_eq_error_iff.mp faulty).2.bounds

theorem BlamesValue.exists_readsExactly {entry : Bytes × Bytes} {error : RequestError}
    (blames : BlamesValue entry error) :
    ∃ name, Utf8.encode name = entry.1 ∧ ReadsExactly name entry.2 (.error error) := by
  obtain ⟨named, faulty⟩ := blames
  refine ⟨_, named, ?_⟩
  rw [← readText_eq_error_iff.mpr ⟨_, faulty, rfl⟩]
  exact readText_readsExactly _ _

/-- Method, URI and body are read as the texts whose encoding was given, and that is what a handle
gives. If what was given is not well-formed, the error tells which part it is, where the longest
well-formed beginning ends, and what is wrong behind it. An error about headers tells the same of a
header's value. -/
theorem texts_read_exactly :
    (∀ request, Reachable request ↔ ∃ fields, BuiltFrom fields request) ∧
      ∀ fields request, BuiltFrom fields request →
        ((Handle.method (some request)).string? = some fields.method ∧
          (Handle.uri (some request)).string? = some fields.uri ∧
          (Handle.body (some request)).string? = some fields.body) ∧
        ReadsExactly "method" fields.method request.methodText ∧
        ReadsExactly "uri" fields.uri request.uriText ∧
        ReadsExactly "body" fields.body request.bodyText ∧
        ∀ order error, order.Perm request.headers.entries →
          (request.inOrder order).headersJson = .error error →
          ∃ entry ∈ request.headers.entries, ∃ name, Utf8.encode name = entry.1 ∧
            ReadsExactly name entry.2 (.error error) := by
  refine ⟨fun request => reachable_iff_builtFrom, fun fields request built => ?_⟩
  have sound := (reachable_iff_builtFrom.mpr ⟨fields, built⟩).sound
  obtain rfl := built.fields_eq
  refine ⟨⟨sound.method_string?, sound.uri_string?, sound.body_string?⟩,
    readText_readsExactly _ _, readText_readsExactly _ _, readText_readsExactly _ _,
    fun order error same fails => ?_⟩
  obtain ⟨entry, held, _, blames⟩ := sound.exists_blamed same fails
  exact ⟨entry, held, blames.exists_readsExactly⟩

/-- A URI that breaks off within a character, a body in which another byte stands where the third of
a character is due, and a header where one stands in place of the fourth. -/
def brokenFields : Fields := ⟨[71, 195, 137], [47, 0xF0, 0x9F], [65, 0xE2, 0x82, 65]⟩

def broken : Request :=
  ⟨brokenFields.method, brokenFields.uri, ⟨[([120], [0xF0, 0x90, 0x80, 65])]⟩, brokenFields.body⟩

theorem broken_builtFrom : BuiltFrom brokenFields broken := by
  have bare : build brokenFields.method brokenFields.uri brokenFields.body =
      .ok ⟨brokenFields.method, brokenFields.uri, .empty, brokenFields.body⟩ := rfl
  have added : (⟨brokenFields.method, brokenFields.uri, .empty, brokenFields.body⟩ :
      Request).withHeader "X" [0xF0, 0x90, 0x80, 65] = .ok broken := rfl
  exact .withHeader (.build bare) added

/-- More bytes would help the URI, and none the body or the header. -/
theorem texts_read_exactly_broken :
    BuiltFrom brokenFields broken ∧ broken.methodText = .ok "GÉ" ∧
      Utf8.Describes brokenFields.uri (.incomplete 1) ∧
      Utf8.Describes brokenFields.body (.invalid 1 2) ∧
      ∃ name, Utf8.encode name = [120] ∧ ReadsExactly name [0xF0, 0x90, 0x80, 65]
        (.error (.invalidText "x" (.invalid 0 3))) := by
  obtain ⟨_, each⟩ := texts_read_exactly
  obtain ⟨_, method, uri, body, headers⟩ := each _ _ broken_builtFrom
  obtain ⟨_, ⟨⟩, _, describesUri⟩ := (uri.error_iff (.invalidText "uri" (.incomplete 1))).mp rfl
  obtain ⟨_, ⟨⟩, _, describesBody⟩ := (body.error_iff (.invalidText "body" (.invalid 1 2))).mp rfl
  obtain ⟨entry, held, name, named, readsValue⟩ :=
    headers _ (.invalidText "x" (.invalid 0 3)) (.refl _) rfl
  obtain rfl := List.mem_singleton.mp held
  exact ⟨broken_builtFrom, (method.text_iff "GÉ").mpr rfl, describesUri, describesBody, name, named,
    readsValue⟩

end Request

end PluginHost
