import Mathlib.Data.Finset.Card
import PluginHost.Proofs.Request.FirstNul
import PluginHost.Proofs.Request.Reachable

/-!
# Adding headers

Of the headers that are given under one name, in whatever letters, the last one counts. The first
header that holds a NUL is the one that is refused, and its name is looked at before its value.
-/

namespace PluginHost

open PluginHost.Text

namespace Request

variable {request after : Request} {key : Bytes} {headers : List (String × Bytes)}
  {error : RequestError}

/-- The value of the last header whose name is the key, in whatever letters. -/
def lastValue? (headers : List (String × Bytes)) (key : Bytes) : Option Bytes :=
  (headers.findRev? fun header => Bytes.SameButCase (Utf8.encode header.1) key).map Prod.snd

theorem storedName_eq_lower_iff {name : String} :
    storedName name = Bytes.lower key ↔ Bytes.SameButCase (Utf8.encode name) key :=
  Bytes.lower_eq_lower_iff _ _

theorem lastValue?_cons (header : String × Bytes) (rest : List (String × Bytes)) (key : Bytes) :
    lastValue? (header :: rest) key = (lastValue? rest key).or
      (if Bytes.lower key = storedName header.1 then some header.2 else none) := by
  rw [lastValue?, lastValue?, List.findRev?]
  cases later : rest.findRev? fun header => Bytes.SameButCase (Utf8.encode header.1) key with
  | some found => rfl
  | none =>
      have here : Bytes.SameButCase (Utf8.encode header.1) key ↔
          Bytes.lower key = storedName header.1 := storedName_eq_lower_iff.symm.trans eq_comm
      by_cases same : Bytes.lower key = storedName header.1
      · simp [here.mpr same, same]
      · simp [mt here.mp same, same]

theorem lastValue?_eq_none_iff :
    lastValue? headers key = none ↔
      ∀ header ∈ headers, ¬ Bytes.SameButCase (Utf8.encode header.1) key := by
  rw [lastValue?, Option.map_eq_none_iff]
  induction headers with
  | nil => simp [List.findRev?]
  | cons header rest ih =>
      rw [List.findRev?, List.forall_mem_cons, ← ih]
      cases rest.findRev? fun header => Bytes.SameButCase (Utf8.encode header.1) key with
      | some found => simp
      | none => simp

/-! ## Headers that are accepted -/

theorem find?_withHeaders (added : request.withHeaders headers = .ok after) (key : Bytes) :
    after.headers.find? (Bytes.lower key) =
      (lastValue? headers key).or (request.headers.find? (Bytes.lower key)) := by
  induction headers generalizing request with
  | nil =>
      cases added
      rfl
  | cons header rest ih =>
      obtain ⟨_, later⟩ := withHeaders_cons_eq_ok_iff.mp added
      rw [ih later, HeaderTable.find?_insert, lastValue?_cons, Option.or_assoc]
      split <;> rfl

theorem mem_names_withHeaders (added : request.withHeaders headers = .ok after) {name : Bytes} :
    name ∈ after.headers.names ↔
      name ∈ request.headers.names ∨ ∃ header ∈ headers, storedName header.1 = name := by
  induction headers generalizing request with
  | nil =>
      cases added
      simp
  | cons header rest ih =>
      obtain ⟨_, later⟩ := withHeaders_cons_eq_ok_iff.mp added
      rw [ih later, HeaderTable.mem_names_insert, List.exists_mem_cons_iff, or_assoc,
        or_left_comm, eq_comm]

/-- Names are counted once, in whatever letters they are given. -/
theorem headerCount_withHeaders (sound : Sound request)
    (added : request.withHeaders headers = .ok after) :
    after.headerCount =
      (request.headers.names ++ headers.map fun header => storedName header.1).toFinset.card := by
  have counted : after.headerCount = after.headers.names.toFinset.card := by
    rw [headerCount, HeaderTable.count_eq,
      List.toFinset_card_of_nodup (sound.withHeaders added).distinct]
  rw [counted]
  congr 1
  ext name
  rw [List.mem_toFinset, List.mem_toFinset, mem_names_withHeaders added, List.mem_append,
    List.mem_map]

/-! ## Headers that are refused -/

/-- What is wrong with a header that holds a NUL: the position is that of the first one, in the
name as it is given or else in the value. -/
inductive Refusal (header : String × Bytes) : RequestError → Prop where
  | name {before after : Bytes} (splits : Utf8.encode header.1 = before ++ 0 :: after)
      (first : 0 ∉ before) : Refusal header (.interiorNul .headerName before.length)
  | value {before after : Bytes} (nameFree : 0 ∉ Utf8.encode header.1)
      (splits : header.2 = before ++ 0 :: after) (first : 0 ∉ before) :
      Refusal header (.interiorNul .headerValue before.length)

theorem firstNul_header_iff {header : String × Bytes} :
    FirstNul (headerParts header) error ↔ Refusal header error := by
  rw [headerParts, FirstNul.cons_iff, FirstNul.singleton_iff]
  simp only [checkField_eq_error_iff, Bytes.firstNul?_eq_some_iff]
  constructor
  · rintro (⟨_, ⟨before, after, splits, first, rfl⟩, rfl⟩ |
      ⟨nameFree, _, ⟨before, after, splits, first, rfl⟩, rfl⟩)
    · exact .name splits first
    · exact .value nameFree splits first
  · intro refusal
    cases refusal with
    | name splits first => exact .inl ⟨_, ⟨_, _, splits, first, rfl⟩, rfl⟩
    | value nameFree splits first =>
        exact .inr ⟨nameFree, _, ⟨_, _, splits, first, rfl⟩, rfl⟩

/-- The first header with a NUL ends the attempt. -/
theorem withHeaders_eq_error_iff : request.withHeaders headers = .error error ↔
    ∃ earlier header later, headers = earlier ++ header :: later ∧
      (∀ other ∈ earlier, 0 ∉ Utf8.encode other.1 ∧ 0 ∉ other.2) ∧ Refusal header error := by
  rw [request.withHeaders_checks headers error, FirstNul.flatMap_iff]
  simp only [nulFreeParts_header, firstNul_header_iff]

/-- Headers are accepted exactly if none of them holds a NUL. Then the last value given under a key
is found there, in whatever letters, or else what was there before; every name is counted once; and
the other parts stay. If headers are refused, the first that holds a NUL is why. -/
theorem withHeaders_last_value_counts (request : Request) (reached : Reachable request)
    (headers : List (String × Bytes)) :
    ((∃ after, request.withHeaders headers = .ok after) ↔
        ∀ header ∈ headers, 0 ∉ Utf8.encode header.1 ∧ 0 ∉ header.2) ∧
      (∀ after, request.withHeaders headers = .ok after →
        (∀ key, 0 ∉ key → (Handle.header (some after) (Pointer.terminated key)).string? =
          (lastValue? headers key).or
            (Handle.header (some request) (Pointer.terminated key)).string?) ∧
        after.headerCount = (request.headers.names ++
          headers.map fun header => Bytes.lower (Utf8.encode header.1)).toFinset.card ∧
        after.method = request.method ∧ after.uri = request.uri ∧ after.body = request.body) ∧
      ∀ error, request.withHeaders headers = .error error ↔
        ∃ earlier header later, headers = earlier ++ header :: later ∧
          (∀ other ∈ earlier, 0 ∉ Utf8.encode other.1 ∧ 0 ∉ other.2) ∧ Refusal header error := by
  have sound := reached.sound
  refine ⟨?_, fun after added => ?_, fun error => withHeaders_eq_error_iff⟩
  · rw [exists_withHeaders_iff]
    simp only [storedName, Bytes.zero_mem_lower_iff]
  · refine ⟨fun key nulFree => ?_, headerCount_withHeaders sound added, withHeaders_keeps added⟩
    rw [(sound.withHeaders added).header_terminated nulFree, sound.header_terminated nulFree,
      find?_withHeaders added]

/-- Small and capital letters of ASCII are one name, those outside are two. Of two headers with a
NUL the first is told, by its name though its value holds one too. -/
theorem withHeaders_last_value_counts_accented :
    Reachable accented ∧
      (∃ after, accented.withHeaders [("HOST", [1]), ("X-é", [2]), ("Host", [3])] = .ok after ∧
        (Handle.header (some after) (Pointer.terminated [104, 79, 83, 84])).string? = some [3] ∧
        after.headerCount = 3) ∧
      ∃ error, accented.withHeaders [("A", [65]), ("B\x00", [66, 0]), ("C", [0])] = .error error ∧
        error = .interiorNul .headerName 1 ∧
        error.message = "request header name contains an interior NUL byte" := by
  have reached := accented_reachable
  refine ⟨reached, ?_, ?_⟩
  · obtain ⟨accepted, found, _⟩ := withHeaders_last_value_counts accented reached
      [("HOST", [1]), ("X-é", [2]), ("Host", [3])]
    obtain ⟨after, added⟩ := accepted.mpr (by decide)
    obtain ⟨lookup, count, _⟩ := found after added
    refine ⟨after, added, ?_, ?_⟩
    · rw [lookup [104, 79, 83, 84] (by decide)]
      decide
    · rw [count]
      decide
  · obtain ⟨_, _, refused⟩ := withHeaders_last_value_counts accented reached
      [("A", [65]), ("B\x00", [66, 0]), ("C", [0])]
    have refusal : Refusal ("B\x00", [66, 0]) (.interiorNul .headerName 1) :=
      @Refusal.name _ [66] [] (by decide) (by decide)
    have first := (refused _).mpr ⟨[("A", [65])], _, [("C", [0])], rfl, by decide, refusal⟩
    exact ⟨_, first, rfl, rfl⟩

end Request

end PluginHost
