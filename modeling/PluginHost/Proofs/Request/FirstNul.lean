import PluginHost.Proofs.Request.NulFree
import PluginHost.Proofs.Text.LetterCase

/-!
# The first NUL

What a request is built from is checked part by part: method, URI, body, and then the name and the
value of each header. The first part that holds a NUL is the one that is told. A check of some parts
and a check of others, one after the other, are a check of them all.
-/

namespace PluginHost

open PluginHost.Text
open PluginHost.Outcome (bind_eq_error)

/-- The error tells of the first of the parts that hold a NUL, and where its first NUL is. -/
inductive FirstNul : List (Field × Bytes) → RequestError → Prop where
  | here {field : Field} {before after : Bytes} {rest : List (Field × Bytes)}
      (first : 0 ∉ before) :
      FirstNul ((field, before ++ 0 :: after) :: rest) (.interiorNul field before.length)
  | later {field : Field} {bytes : Bytes} {rest : List (Field × Bytes)} {error : RequestError}
      (clean : 0 ∉ bytes) (found : FirstNul rest error) : FirstNul ((field, bytes) :: rest) error

/-- No part holds a NUL. -/
def NulFreeParts (parts : List (Field × Bytes)) : Prop := ∀ part ∈ parts, 0 ∉ part.2

instance (parts : List (Field × Bytes)) : Decidable (NulFreeParts parts) :=
  inferInstanceAs (Decidable (∀ part ∈ parts, 0 ∉ part.2))

section

variable {field : Field} {bytes : Bytes} {parts rest : List (Field × Bytes)} {error : RequestError}

theorem nulFreeParts_nil : NulFreeParts [] := List.forall_mem_nil _

theorem nulFreeParts_cons :
    NulFreeParts ((field, bytes) :: rest) ↔ 0 ∉ bytes ∧ NulFreeParts rest := List.forall_mem_cons

variable {α β : Type} {items : List α} {partsOf : α → List (Field × Bytes)}

theorem nulFreeParts_flatMap :
    NulFreeParts (items.flatMap partsOf) ↔ ∀ item ∈ items, NulFreeParts (partsOf item) :=
  List.forall_mem_flatMap

namespace FirstNul

theorem nil_iff : FirstNul [] error ↔ False := ⟨nofun, nofun⟩

theorem singleton_iff :
    FirstNul [(field, bytes)] error ↔ Request.checkField field bytes = .error error := by
  rw [Request.checkField_eq_error_iff]
  constructor
  · intro found
    cases found with
    | here first => exact ⟨_, Bytes.firstNul?_append_nul first _, rfl⟩
    | later _ found => cases found
  · rintro ⟨_, found, rfl⟩
    obtain ⟨before, after, rfl, first, rfl⟩ := Bytes.firstNul?_eq_some_iff.mp found
    exact .here first

theorem append_iff : FirstNul (parts ++ rest) error ↔
    FirstNul parts error ∨ NulFreeParts parts ∧ FirstNul rest error := by
  constructor
  · intro found
    induction parts with
    | nil => exact .inr ⟨nulFreeParts_nil, found⟩
    | cons part others ih =>
        cases found with
        | here first => exact .inl (.here first)
        | later clean found =>
            refine (ih found).imp (.later clean) (And.imp_left fun others => ?_)
            exact nulFreeParts_cons.mpr ⟨clean, others⟩
  · rintro (found | ⟨clean, found⟩)
    · induction found with
      | here first => exact .here first
      | later clean _ ih => exact .later clean ih
    · induction parts with
      | nil => exact found
      | cons part others ih =>
          obtain ⟨cleanFirst, cleanRest⟩ := nulFreeParts_cons.mp clean
          exact .later cleanFirst (ih cleanRest)

theorem cons_iff : FirstNul ((field, bytes) :: rest) error ↔
    Request.checkField field bytes = .error error ∨ 0 ∉ bytes ∧ FirstNul rest error := by
  rw [← List.singleton_append, append_iff, singleton_iff, nulFreeParts_cons,
    and_iff_left nulFreeParts_nil]

theorem cons_of_clean (clean : 0 ∉ bytes) :
    FirstNul ((field, bytes) :: rest) error ↔ FirstNul rest error := by
  have accepted := (@Request.checkField_eq_ok_iff field _ _).mpr ⟨clean, rfl⟩
  simp [cons_iff, accepted, clean]

/-- Of things that have parts each, the first with a NUL has the first of all. -/
theorem flatMap_iff : FirstNul (items.flatMap partsOf) error ↔
    ∃ earlier item later, items = earlier ++ item :: later ∧
      (∀ other ∈ earlier, NulFreeParts (partsOf other)) ∧ FirstNul (partsOf item) error := by
  constructor
  · intro found
    induction items with
    | nil => cases found
    | cons item rest ih =>
        rw [List.flatMap_cons, append_iff] at found
        rcases found with found | ⟨clean, found⟩
        · exact ⟨[], item, rest, rfl, List.forall_mem_nil _, found⟩
        · obtain ⟨earlier, other, later, rfl, cleanEarlier, found⟩ := ih found
          exact ⟨item :: earlier, other, later, rfl,
            List.forall_mem_cons.mpr ⟨clean, cleanEarlier⟩, found⟩
  · rintro ⟨earlier, item, later, rfl, clean, found⟩
    rw [List.flatMap_append, append_iff, List.flatMap_cons, append_iff]
    exact .inr ⟨nulFreeParts_flatMap.mpr clean, .inl found⟩

/-- Either no part holds a NUL, or one is the first that does. -/
theorem exists_iff : (∃ error, FirstNul parts error) ↔ ¬ NulFreeParts parts := by
  induction parts with
  | nil => simp [nil_iff, nulFreeParts_nil]
  | cons part others ih =>
      obtain ⟨field, bytes⟩ := part
      rw [nulFreeParts_cons, not_and, ← ih]
      constructor
      · rintro ⟨error, found⟩ clean
        cases found with
        | here first => exact absurd (List.mem_append_right _ List.mem_cons_self) clean
        | later _ found => exact ⟨error, found⟩
      · intro later
        by_cases held : 0 ∈ bytes
        · obtain ⟨before, after, rfl, first⟩ := List.eq_append_cons_of_mem held
          exact ⟨_, .here first⟩
        · exact (later held).imp fun _ => .later held

end FirstNul

/-! ## Checks -/

/-- An attempt that fails exactly for the first NUL in the parts. -/
def Checks (parts : List (Field × Bytes)) (attempt : Except RequestError α) : Prop :=
  ∀ error, attempt = .error error ↔ FirstNul parts error

namespace Checks

theorem ok (result : α) : Checks [] (.ok result : Except RequestError α) := by
  intro error
  rw [FirstNul.nil_iff]
  exact ⟨nofun, False.elim⟩

theorem checkField (field : Field) (bytes : Bytes) :
    Checks [(field, bytes)] (Request.checkField field bytes) := fun _ => FirstNul.singleton_iff.symm

/-- A NUL in a name is where it was before the letters became small. -/
theorem storedName (field : Field) (name : String) :
    Checks [(field, Utf8.encode name)] (Request.checkField field (Request.storedName name)) := by
  intro error
  rw [FirstNul.singleton_iff, Request.checkField_eq_error_iff, Request.checkField_eq_error_iff,
    Request.storedName, Bytes.firstNul?_lower]

theorem exists_ok_iff {attempt : Except RequestError α} (checks : Checks parts attempt) :
    (∃ result, attempt = .ok result) ↔ NulFreeParts parts := by
  rw [← not_iff_not, ← FirstNul.exists_iff]
  simp only [← checks _]
  cases attempt with
  | error error => simp
  | ok result => simp

theorem bind {first : Except RequestError α} {next : α → Except RequestError β}
    (checks : Checks parts first) (checksNext : ∀ middle, Checks rest (next middle)) :
    Checks (parts ++ rest) (first >>= next) := by
  intro error
  rw [bind_eq_error, FirstNul.append_iff, checks, ← checks.exists_ok_iff, ← exists_and_right]
  simp only [checksNext _ error]

end Checks

end

/-- The parts of a header. -/
def headerParts (header : String × Bytes) : List (Field × Bytes) :=
  [(.headerName, Utf8.encode header.1), (.headerValue, header.2)]

theorem nulFreeParts_header {header : String × Bytes} :
    NulFreeParts (headerParts header) ↔ 0 ∉ Utf8.encode header.1 ∧ 0 ∉ header.2 := by
  rw [headerParts, nulFreeParts_cons, nulFreeParts_cons, and_iff_left nulFreeParts_nil]

namespace Request

theorem build_checks (method uri body : Bytes) :
    Checks [(.method, method), (.uri, uri), (.body, body)] (build method uri body) :=
  (Checks.checkField .method method).bind fun _ =>
    (Checks.checkField .uri uri).bind fun _ => (Checks.checkField .body body).bind fun _ => .ok _

theorem withHeader_checks (request : Request) (header : String × Bytes) :
    Checks (headerParts header) (request.withHeader header.1 header.2) :=
  (Checks.storedName .headerName header.1).bind fun _ =>
    (Checks.checkField .headerValue header.2).bind fun _ => .ok _

theorem withHeaders_checks (request : Request) (headers : List (String × Bytes)) :
    Checks (headers.flatMap headerParts) (request.withHeaders headers) := by
  induction headers generalizing request with
  | nil => exact .ok request
  | cons header rest ih => exact (withHeader_checks request header).bind ih

/-- Headers are accepted exactly if no name and no value holds a NUL. -/
theorem exists_withHeaders_iff (request : Request) (headers : List (String × Bytes)) :
    (∃ after, request.withHeaders headers = .ok after) ↔
      ∀ header ∈ headers, 0 ∉ storedName header.1 ∧ 0 ∉ header.2 := by
  rw [(request.withHeaders_checks headers).exists_ok_iff, nulFreeParts_flatMap]
  simp only [nulFreeParts_header, storedName, Bytes.zero_mem_lower_iff]

end Request

namespace Draft

/-- The parts in the order in which they are checked. -/
def parts (draft : Draft) : List (Field × Bytes) :=
  [(.method, draft.method), (.uri, draft.uri), (.body, draft.body)] ++
    draft.headers.flatMap headerParts

theorem build_checks (draft : Draft) : Checks draft.parts draft.build :=
  (Request.build_checks draft.method draft.uri draft.body).bind fun request =>
    request.withHeaders_checks draft.headers

end Draft

end PluginHost
