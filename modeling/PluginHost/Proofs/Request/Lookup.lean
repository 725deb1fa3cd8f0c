import PluginHost.Proofs.Request.LastGiven

/-!
# Looking up headers

A header is looked up by a text or by a string that a NUL ends. Both ways find the same values under
the same names, whatever the case of their ASCII letters, and nothing under a name that was never
given.
-/

namespace PluginHost

open PluginHost.Text

namespace Request

variable {given : List String} {request : Request}

/-- The names that are stored are those that were given, in small letters. -/
theorem BuiltWith.mem_names_iff (built : BuiltWith given request) {name : Bytes} :
    name ∈ request.headers.names ↔ ∃ text ∈ given, storedName text = name := by
  induction built with
  | build built =>
      obtain ⟨_, rfl⟩ := build_eq_ok_iff.mp built
      simp [HeaderTable.names, HeaderTable.empty]
  | withHeader _ added ih =>
      obtain ⟨_, rfl⟩ := withHeader_eq_ok_iff.mp added
      rw [HeaderTable.mem_names_insert, ih, or_comm, @eq_comm _ name]
      simp only [List.mem_append, List.mem_singleton, or_and_right, exists_or, exists_eq_left]
  | withHeaders _ added ih =>
      rw [mem_names_withHeaders added, ih]
      simp only [List.mem_append, List.mem_map, or_and_right, exists_or, exists_exists_and_eq_and]
  | clone _ same ih =>
      rw [← ih]
      exact (same.map Prod.fst).mem_iff

/-! ## By a string that a NUL ends -/

theorem header_memory (request : Request) (memory : Bytes) :
    Handle.header (some request) (some memory) =
      (request.headers.find? (Bytes.lower (Bytes.untilNul memory))).bind Pointer.terminated :=
  header_some request (some memory)

theorem header_of_same (request : Request) {memory other : Bytes}
    (same : Bytes.SameButCase (Bytes.untilNul memory) (Bytes.untilNul other)) :
    Handle.header (some request) (some memory) = Handle.header (some request) (some other) := by
  rw [header_memory, header_memory, (Bytes.lower_eq_lower_iff _ _).mpr same]

/-- A key finds something exactly if its letters were given as a name, in whatever case. -/
theorem BuiltWith.header_ne_none_iff (built : BuiltWith given request) (memory : Bytes) :
    Handle.header (some request) (some memory) ≠ none ↔
      ∃ name ∈ given, Bytes.SameButCase (Utf8.encode name) (Bytes.untilNul memory) := by
  have stored : Handle.header (some request) (some memory) ≠ none ↔
      Bytes.lower (Bytes.untilNul memory) ∈ request.headers.names := by
    rw [header_memory, ← not_iff_not, not_not, ← HeaderTable.find?_eq_none_iff]
    cases request.headers.find? (Bytes.lower (Bytes.untilNul memory)) with
    | none => simp
    | some value => simp [Pointer.terminated]
  rw [stored, built.mem_names_iff]
  simp only [storedName_eq_lower_iff]

/-- What is no text was never given as a name. -/
theorem BuiltWith.header_of_noText (built : BuiltWith given request) {memory : Bytes}
    (noText : ∀ text, Utf8.encode text ≠ Bytes.untilNul memory) :
    Handle.header (some request) (some memory) = none := by
  by_contra found
  obtain ⟨name, _, same⟩ := (built.header_ne_none_iff memory).mp found
  have lowered := (Bytes.lower_eq_lower_iff _ _).mpr same
  rw [Utf8.lower_encode] at lowered
  obtain ⟨text, isText⟩ := Utf8.exists_encode_of_lower lowered.symm
  exact noText text isText

/-! ## By a text -/

/-- A text finds the value under its bytes, if this is a text, too. -/
theorem Sound.header?_of_nulFree (sound : Sound request) {name : String}
    (nulFree : 0 ∉ Utf8.encode name) :
    request.header? name =
      (Handle.header (some request) (Pointer.terminated (Utf8.encode name))).string?.bind
        Utf8.decode? := by
  rw [sound.header_terminated nulFree, header?_eq, if_neg nulFree, storedName]

theorem bind_decode?_eq_some_iff {found : Option Bytes} {text : String} :
    found.bind Utf8.decode? = some text ↔ found = some (Utf8.encode text) := by
  simp only [Option.bind_eq_some_iff, Utf8.decode?_eq_some_iff, exists_eq_right']

theorem bind_decode?_eq_none_iff {found : Option Bytes} :
    found.bind Utf8.decode? = none ↔
      found = none ∨ ∃ bytes, found = some bytes ∧ ∀ text, Utf8.encode text ≠ bytes := by
  cases found with
  | none => simp
  | some bytes =>
      rw [Option.bind_some, Utf8.decode?_eq_none_iff]
      simp

/-- A text finds what the string of its bytes finds, unless the value is no text. What a string
finds depends on what is before its first NUL, and not on the case of letters there: something is
found exactly if the same letters were given as a name. A text with a NUL finds nothing. -/
theorem lookups_agree :
    (∀ request, Reachable request ↔ ∃ given, BuiltWith given request) ∧
      hostAccessors.header = Handle.header ∧
      ∀ given request, BuiltWith given request →
        (∀ name, 0 ∉ Utf8.encode name →
          let found :=
            (Handle.header (some request) (Pointer.terminated (Utf8.encode name))).string?
          (∀ text, request.header? name = some text ↔ found = some (Utf8.encode text)) ∧
            (request.header? name = none ↔
              found = none ∨ ∃ bytes, found = some bytes ∧ ∀ text, Utf8.encode text ≠ bytes)) ∧
        (∀ memory : Bytes,
          let key := Bytes.untilNul memory
          let found := Handle.header (some request) (some memory)
          found = Handle.header (some request) (Pointer.terminated key) ∧
            (∀ other, Bytes.SameButCase key (Bytes.untilNul other) →
              found = Handle.header (some request) (some other)) ∧
            ((∀ text, Utf8.encode text ≠ key) → found = none) ∧
            (found ≠ none ↔ ∃ name ∈ given, Bytes.SameButCase (Utf8.encode name) key)) ∧
        ∀ name, 0 ∈ Utf8.encode name → request.header? name = none := by
  refine ⟨fun request => reachable_iff_builtWith, rfl, fun given request built => ⟨?_, ?_, ?_⟩⟩
  · intro name nulFree
    have sound := (reachable_iff_builtWith.mpr ⟨given, built⟩).sound
    rw [sound.header?_of_nulFree nulFree]
    exact ⟨fun text => bind_decode?_eq_some_iff, bind_decode?_eq_none_iff⟩
  · intro memory
    refine ⟨?_, fun other => header_of_same request, built.header_of_noText,
      built.header_ne_none_iff memory⟩
    have key := Pointer.string?_terminated (Bytes.zero_notMem_untilNul memory)
    rw [header_memory, header_some, key, Option.bind_some]
  · intro name hasNul
    rw [header?_eq, if_pos hasNul]

/-- A key is cut at its NUL, a text with a NUL is not. Letters outside ASCII keep their case. -/
theorem lookups_agree_cut :
    BuiltWith ["Host", "X-É", "hOST"] accented ∧
      (Handle.header (some accented) (some [72, 79, 83, 84, 0, 120])).string? = some [0xFF] ∧
      accented.header? "HOST\x00x" = none ∧ accented.header? "HOST" = none ∧
      accented.header? "x-É" = some "A" ∧
      Handle.header (some accented) (Pointer.terminated (Utf8.encode "x-é")) = none ∧
      Handle.header (some accented) (some [0xFF]) = none := by
  obtain ⟨_, _, each⟩ := lookups_agree
  obtain ⟨texts, keys, cut⟩ := each _ _ accented_builtWith
  have noText : ∀ text, Utf8.encode text ≠ [0xFF] := Utf8.decode?_eq_none_iff.mp rfl
  refine ⟨accented_builtWith, ?_, cut _ (by decide), ?_, ?_, ?_, ?_⟩
  · rw [(keys [72, 79, 83, 84, 0, 120]).1]
    decide
  · exact (texts "HOST" (by decide)).2.mpr (.inr ⟨[0xFF], by decide, noText⟩)
  · exact ((texts "x-É" (by decide)).1 "A").mpr (by decide)
  · obtain ⟨_, _, _, found⟩ := keys (Utf8.encode "x-é" ++ [0])
    exact not_not.mp (mt found.mp (by decide))
  · exact (keys [0xFF]).2.2.1 noText

end Request

end PluginHost
