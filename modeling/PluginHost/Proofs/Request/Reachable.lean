import PluginHost.Proofs.Request.HeaderTable
import PluginHost.Proofs.Request.NulFree
import PluginHost.Proofs.Text.LetterCase

/-!
# Requests that can be built

Building, adding headers and cloning bring about exactly the sound requests: no part holds a NUL,
and the names of the headers are texts in small letters, none of which stands twice. All reading
through a handle relies on this: no field is cut short, and every header is found.
-/

namespace PluginHost

open PluginHost.Text
open PluginHost.Outcome (bind_eq_ok foldlM_keeps mapError_eq_ok)

theorem Bytes.zero_notMem_untilNul (bytes : Bytes) : 0 ∉ untilNul bytes := by
  intro member
  have passed := List.all_eq_true.mp List.all_takeWhile 0 member
  exact absurd passed (by decide)

theorem Pointer.zero_notMem_string {key : Pointer} {name : Bytes}
    (names : key.string? = some name) : 0 ∉ name := by
  obtain ⟨memory, _, rfl⟩ := Option.map_eq_some_iff.mp names
  exact Bytes.zero_notMem_untilNul memory

namespace Request

/-- What building, adding headers and cloning can bring about. -/
inductive Reachable : Request → Prop where
  | build {method uri body : Bytes} {request : Request}
      (built : Request.build method uri body = .ok request) : Reachable request
  | withHeader {before request : Request} {name : String} {value : Bytes}
      (reached : Reachable before) (added : before.withHeader name value = .ok request) :
      Reachable request
  | withHeaders {before request : Request} {headers : List (String × Bytes)}
      (reached : Reachable before) (added : before.withHeaders headers = .ok request) :
      Reachable request
  /-- A clone may hold its headers in another order. -/
  | clone {request : Request} {entries : List (Bytes × Bytes)} (reached : Reachable request)
      (same : entries.Perm request.headers.entries) :
      Reachable { request with headers := ⟨entries⟩ }

/-- A request, and all names under which headers were given while it was built. -/
inductive BuiltWith : List String → Request → Prop where
  | build {method uri body : Bytes} {request : Request}
      (built : Request.build method uri body = .ok request) : BuiltWith [] request
  | withHeader {given : List String} {before request : Request} {name : String} {value : Bytes}
      (reached : BuiltWith given before) (added : before.withHeader name value = .ok request) :
      BuiltWith (given ++ [name]) request
  | withHeaders {given : List String} {before request : Request} {headers : List (String × Bytes)}
      (reached : BuiltWith given before) (added : before.withHeaders headers = .ok request) :
      BuiltWith (given ++ headers.map Prod.fst) request
  | clone {given : List String} {request : Request} {entries : List (Bytes × Bytes)}
      (reached : BuiltWith given request) (same : entries.Perm request.headers.entries) :
      BuiltWith given { request with headers := ⟨entries⟩ }

theorem reachable_iff_builtWith : Reachable request ↔ ∃ given, BuiltWith given request := by
  constructor
  · intro reached
    induction reached with
    | build built => exact ⟨_, .build built⟩
    | withHeader _ added ih => exact ih.imp' _ fun _ before => .withHeader before added
    | withHeaders _ added ih => exact ih.imp' _ fun _ before => .withHeaders before added
    | clone _ same ih => exact ih.imp' _ fun _ before => .clone before same
  · rintro ⟨given, built⟩
    induction built with
    | build built => exact .build built
    | withHeader _ added ih => exact ih.withHeader added
    | withHeaders _ added ih => exact ih.withHeaders added
    | clone _ same ih => exact ih.clone same

/-! ## The invariant -/

/-- A name as it is kept: the encoding of a text, with neither NULs nor capital letters. -/
structure IsStoredName (name : Bytes) : Prop where
  nulFree : 0 ∉ name
  isText : ∃ text, Utf8.encode text = name
  small : ∀ byte ∈ name, ¬ Bytes.IsCapital byte

theorem IsStoredName.lower_eq {name : Bytes} (stored : IsStoredName name) :
    Bytes.lower name = name := Bytes.lower_of_not_isCapital stored.small

theorem storedName_eq (name : String) : storedName name = Utf8.encode name.toLower :=
  Utf8.lower_encode name

theorem isStoredName_storedName {name : String} (nulFree : 0 ∉ storedName name) :
    IsStoredName (storedName name) :=
  ⟨nulFree, ⟨_, (storedName_eq name).symm⟩, fun _ => Bytes.not_isCapital_of_mem_lower⟩

/-- What holds of a request however it was built. -/
structure Sound (request : Request) : Prop where
  method : 0 ∉ request.method
  uri : 0 ∉ request.uri
  body : 0 ∉ request.body
  names : ∀ entry ∈ request.headers.entries, IsStoredName entry.1
  values : ∀ entry ∈ request.headers.entries, 0 ∉ entry.2
  distinct : request.headers.names.Nodup

namespace Sound

variable {request after : Request} {name : String} {value : Bytes}

theorem ofBuild {method uri body : Bytes} (built : build method uri body = .ok request) :
    Sound request := by
  obtain ⟨⟨inMethod, inUri, inBody⟩, rfl⟩ := build_eq_ok_iff.mp built
  exact ⟨inMethod, inUri, inBody, nofun, nofun, List.nodup_nil⟩

/-- One more header: its name is stored in small letters, or gets another value. -/
theorem withHeader (sound : Sound request) (added : request.withHeader name value = .ok after) :
    Sound after := by
  obtain ⟨⟨nameFree, valueFree⟩, rfl⟩ := withHeader_eq_ok_iff.mp added
  refine ⟨sound.method, sound.uri, sound.body, fun entry member => ?_, fun entry member => ?_,
    HeaderTable.nodup_names_insert sound.distinct _ _⟩
  · rcases HeaderTable.eq_or_mem_of_mem_insert member with rfl | before
    · exact isStoredName_storedName nameFree
    · exact sound.names entry before
  · rcases HeaderTable.eq_or_mem_of_mem_insert member with rfl | before
    · exact valueFree
    · exact sound.values entry before

theorem withHeaders {headers : List (String × Bytes)} (sound : Sound request)
    (added : request.withHeaders headers = .ok after) : Sound after :=
  foldlM_keeps Sound (fun _ _ _ _ before first => before.withHeader first) sound added

theorem clone {entries : List (Bytes × Bytes)} (sound : Sound request)
    (same : entries.Perm request.headers.entries) :
    Sound { request with headers := ⟨entries⟩ } where
  method := sound.method
  uri := sound.uri
  body := sound.body
  names entry member := sound.names entry (same.mem_iff.mp member)
  values entry member := sound.values entry (same.mem_iff.mp member)
  distinct := (same.map Prod.fst).nodup_iff.mpr sound.distinct

end Sound

theorem Reachable.sound {request : Request} (reached : Reachable request) : Sound request := by
  induction reached with
  | build built => exact .ofBuild built
  | withHeader _ added ih => exact ih.withHeader added
  | withHeaders _ added ih => exact ih.withHeaders added
  | clone _ same ih => exact ih.clone same

/-- A header of a new name, stored as it is to be, comes behind the others. -/
theorem withHeader_of_new {request : Request} {entry : Bytes × Bytes}
    (stored : IsStoredName entry.1) (valueFree : 0 ∉ entry.2)
    (new : entry.1 ∉ request.headers.names) :
    ∃ text, request.withHeader text entry.2 =
      .ok { request with headers := ⟨request.headers.entries ++ [entry]⟩ } := by
  obtain ⟨text, isText⟩ := stored.isText
  have name_eq : storedName text = entry.1 := by rw [storedName, isText, stored.lower_eq]
  refine ⟨text, withHeader_eq_ok_iff.mpr ⟨⟨name_eq ▸ stored.nulFree, valueFree⟩, ?_⟩⟩
  rw [name_eq, HeaderTable.insert_of_not_mem new]

/-- Headers of new names are added one after the other. -/
theorem Reachable.append {request : Request} {entries : List (Bytes × Bytes)}
    (reached : Reachable request) (proper : ∀ entry ∈ entries, IsStoredName entry.1 ∧ 0 ∉ entry.2)
    (distinct : (request.headers.names ++ entries.map Prod.fst).Nodup) :
    Reachable { request with headers := ⟨request.headers.entries ++ entries⟩ } := by
  induction entries generalizing request with
  | nil => rwa [List.append_nil]
  | cons entry rest ih =>
      obtain ⟨⟨stored, valueFree⟩, properRest⟩ := List.forall_mem_cons.mp proper
      have new : entry.1 ∉ request.headers.names := fun held =>
        (List.nodup_append.mp distinct).2.2 _ held _ List.mem_cons_self rfl
      obtain ⟨text, added⟩ := withHeader_of_new stored valueFree new
      rw [List.append_cons]
      refine ih (.withHeader reached added) properRest ?_
      rw [HeaderTable.names, List.map_append, List.append_assoc]
      exact distinct

theorem Sound.reachable {request : Request} (sound : Sound request) : Reachable request := by
  have bare : build request.method request.uri request.body =
      .ok ⟨request.method, request.uri, .empty, request.body⟩ :=
    build_eq_ok_iff.mpr ⟨⟨sound.method, sound.uri, sound.body⟩, rfl⟩
  have proper (entry : Bytes × Bytes) (held : entry ∈ request.headers.entries) :=
    And.intro (sound.names entry held) (sound.values entry held)
  exact (Reachable.build bare).append proper sound.distinct

/-! ## Reading -/

variable {request : Request}

/-- A key that is read up to its NUL is never refused. -/
theorem checkField_key {key : Pointer} {name : Bytes} (names : key.string? = some name) :
    checkField .headerName (Bytes.lower name) = .ok (Bytes.lower name) :=
  checkField_eq_ok_iff.mpr
    ⟨mt (Bytes.zero_mem_lower_iff name).mp (Pointer.zero_notMem_string names), rfl⟩

/-- A key names what is stored under it in small letters. -/
theorem header_some (request : Request) (key : Pointer) :
    Handle.header (some request) key = key.string?.bind fun name =>
      (request.headers.find? (Bytes.lower name)).bind Pointer.terminated := by
  have header_eq : Handle.header (some request) key = key.string?.bind fun name =>
    (checkField .headerName (Bytes.lower name)).toOption.bind fun stored =>
      (request.headers.find? stored).bind Pointer.terminated := rfl
  rw [header_eq]
  cases names : key.string? with
  | none => rfl
  | some name =>
      rw [Option.bind_some, Option.bind_some, checkField_key names]
      rfl

/-- A text without NUL names what is stored under it in small letters. -/
theorem header?_eq (request : Request) (name : String) :
    request.header? name = if 0 ∈ Utf8.encode name then none
      else (request.headers.find? (storedName name)).bind Utf8.decode? := by
  have header?_bind : request.header? name =
    (checkField .headerName (storedName name)).toOption.bind fun stored =>
      (request.headers.find? stored).bind Utf8.decode? := rfl
  rw [header?_bind]
  cases checked : checkField .headerName (storedName name) with
  | ok stored =>
      obtain ⟨nulFree, rfl⟩ := checkField_eq_ok_iff.mp checked
      rw [storedName, Bytes.zero_mem_lower_iff] at nulFree
      rw [if_neg nulFree]
      rfl
  | error error =>
      have hasNul : 0 ∈ Utf8.encode name := by
        by_contra nulFree
        have stored := mt (Bytes.zero_mem_lower_iff _).mp nulFree
        cases checked.symm.trans (checkField_eq_ok_iff.mpr ⟨stored, rfl⟩)
      rw [if_pos hasNul]
      rfl

theorem readText_eq_ok_iff {label text : String} {bytes : Bytes} :
    readText label bytes = .ok text ↔ Utf8.encode text = bytes := by
  rw [readText, mapError_eq_ok, Utf8.decode_eq_ok_iff]

namespace Sound

theorem method_string? (sound : Sound request) :
    (Handle.method (some request)).string? = some request.method :=
  Pointer.string?_terminated sound.method

theorem uri_string? (sound : Sound request) :
    (Handle.uri (some request)).string? = some request.uri :=
  Pointer.string?_terminated sound.uri

theorem body_string? (sound : Sound request) :
    (Handle.body (some request)).string? = some request.body :=
  Pointer.string?_terminated sound.body

/-- The handle finds what the table holds under the name in small letters, and all of it. -/
theorem header_string? (sound : Sound request) (key : Pointer) :
    (Handle.header (some request) key).string? =
      key.string?.bind fun name => request.headers.find? (Bytes.lower name) := by
  rw [header_some]
  cases key.string? with
  | none => rfl
  | some name =>
      rw [Option.bind_some, Option.bind_some]
      cases found : request.headers.find? (Bytes.lower name) with
      | none => rfl
      | some value =>
          have held := (HeaderTable.find?_eq_some_iff sound.distinct).mp found
          exact Pointer.string?_terminated (sound.values _ held)

/-- Keys are the strings before their NULs. -/
theorem header_terminated (sound : Sound request) {name : Bytes} (nulFree : 0 ∉ name) :
    (Handle.header (some request) (Pointer.terminated name)).string? =
      request.headers.find? (Bytes.lower name) := by
  rw [sound.header_string?, Pointer.string?_terminated nulFree, Option.bind_some]

/-- A header that is held is found under its name, in whatever letters this is given. -/
theorem header_of_mem (sound : Sound request) {entry : Bytes × Bytes}
    (held : entry ∈ request.headers.entries) {name : Bytes} (names : Bytes.lower name = entry.1) :
    (Handle.header (some request) (Pointer.terminated name)).string? = some entry.2 := by
  have nulFree : 0 ∉ name := by
    rw [← Bytes.zero_mem_lower_iff, names]
    exact (sound.names entry held).nulFree
  rw [sound.header_terminated nulFree, names]
  exact (HeaderTable.find?_eq_some_iff sound.distinct).mpr held

theorem header?_of_mem (sound : Sound request) {entry : Bytes × Bytes}
    (held : entry ∈ request.headers.entries) {text : String} (names : storedName text = entry.1) :
    request.header? text = Utf8.decode? entry.2 := by
  have nulFree : 0 ∉ Utf8.encode text := by
    rw [← Bytes.zero_mem_lower_iff, ← storedName, names]
    exact (sound.names entry held).nulFree
  have found := (HeaderTable.find?_eq_some_iff sound.distinct).mpr held
  rw [header?_eq, if_neg nulFree, names, found, Option.bind_some]

end Sound

/-- The reachable requests are exactly the sound ones. Each field that a handle gives reaches up to
the NUL behind it; no key is refused, no name fails to be text, and every header is found under its
name, in whatever letters. -/
theorem reachable_iff_sound_and_legible (request : Request) :
    (Reachable request ↔ Sound request) ∧
      (Reachable request →
        (Handle.method (some request)).string? = some request.method ∧
        (Handle.uri (some request)).string? = some request.uri ∧
        (Handle.body (some request)).string? = some request.body ∧
        (∀ (key : Pointer) (name : Bytes), key.string? = some name →
          checkField .headerName (Bytes.lower name) = .ok (Bytes.lower name) ∧
          (Handle.header (some request) key).string? =
            request.headers.find? (Bytes.lower name)) ∧
        ∀ entry ∈ request.headers.entries,
          (∃ text, readText Field.headerName.label entry.1 = .ok text) ∧
          (∀ name, Bytes.SameButCase name entry.1 →
            (Handle.header (some request) (Pointer.terminated name)).string? = some entry.2) ∧
          ∀ text, Bytes.SameButCase (Utf8.encode text) entry.1 →
            request.header? text = Utf8.decode? entry.2) := by
  refine ⟨⟨Reachable.sound, Sound.reachable⟩, fun reached => ?_⟩
  have sound := reached.sound
  refine ⟨sound.method_string?, sound.uri_string?, sound.body_string?, fun key name names => ?_,
    fun entry held => ?_⟩
  · refine ⟨checkField_key names, ?_⟩
    rw [sound.header_string?, names, Option.bind_some]
  · have stored := sound.names entry held
    have small {name : Bytes} (same : Bytes.SameButCase name entry.1) :
        Bytes.lower name = entry.1 := by
      rw [(Bytes.lower_eq_lower_iff name entry.1).mpr same, stored.lower_eq]
    obtain ⟨text, isText⟩ := stored.isText
    exact ⟨⟨text, readText_eq_ok_iff.mpr isText⟩,
      fun name same => sound.header_of_mem held (small same),
      fun text same => sound.header?_of_mem held (small same)⟩

/-- Two headers: a value that is no text, and a name with a capital letter outside ASCII. -/
def accented : Request :=
  ⟨[71, 69, 84], [47], ⟨[([120, 45, 195, 137], [65]), ([104, 111, 115, 116], [0xFF])]⟩, []⟩

theorem accented_builtWith : BuiltWith ["Host", "X-É", "hOST"] accented := by
  have bare : build [71, 69, 84] [47] [] = .ok ⟨[71, 69, 84], [47], .empty, []⟩ := rfl
  have added : (⟨[71, 69, 84], [47], .empty, []⟩ : Request).withHeaders
      [("Host", [10]), ("X-É", [65]), ("hOST", [0xFF])] =
      .ok ⟨[71, 69, 84], [47], ⟨accented.headers.entries.reverse⟩, []⟩ := rfl
  exact .clone (.withHeaders (.build bare) added) (List.reverse_perm _).symm

theorem accented_reachable : Reachable accented :=
  reachable_iff_builtWith.mpr ⟨_, accented_builtWith⟩

/-- The value that is no text is read through the handle, and absent as text. -/
theorem reachable_iff_sound_and_legible_accented :
    Reachable accented ∧ Sound accented ∧
      (Handle.header (some accented) (Pointer.terminated [72, 79, 83, 84])).string? = some [0xFF] ∧
      accented.header? "HosT" = none := by
  obtain ⟨characterized, legible⟩ := reachable_iff_sound_and_legible accented
  obtain ⟨_, _, _, _, headers⟩ := legible accented_reachable
  have held : ([104, 111, 115, 116], [0xFF]) ∈ accented.headers.entries := by decide
  obtain ⟨_, throughHandle, asText⟩ := headers _ held
  refine ⟨accented_reachable, characterized.mp accented_reachable, throughHandle _ (by decide), ?_⟩
  rw [asText "HosT" (by decide)]
  rfl

end Request

end PluginHost
