import PluginHost.Proofs.Request.HeadersJson

/-!
# Headers that cannot be written

A table has no order of its own, so its headers may be taken in any. Either they are written as the
same text in every order, or they are refused in every order. What is refused is a value that is no
text, namely the first of them.
-/

namespace PluginHost

open PluginHost.Text
open PluginHost.Outcome
  (bind_eq_ok bind_eq_error exists_error_iff foldlM_eq_error_iff map_eq_ok map_eq_error
    mapError_eq_error)

namespace Request

variable {request : Request} {object after : Json.Object} {entry : Bytes × Bytes}
  {entries order : List (Bytes × Bytes)} {error second : RequestError}

/-- The request with its headers in another order. -/
def inOrder (request : Request) (order : List (Bytes × Bytes)) : Request :=
  { request with headers := ⟨order⟩ }

/-- The error bears the name of the header, and says what is wrong with its value. -/
inductive BlamesValue (entry : Bytes × Bytes) : RequestError → Prop where
  | intro {name : String} {fault : Utf8.Fault} (named : Utf8.encode name = entry.1)
      (faulty : Utf8.decode entry.2 = .error fault) : BlamesValue entry (.invalidText name fault)

namespace BlamesValue

theorem noText (blames : BlamesValue entry error) : ∀ text, Utf8.encode text ≠ entry.2 := by
  obtain ⟨_, faulty⟩ := blames
  exact Utf8.exists_decode_eq_error_iff.mp ⟨_, faulty⟩

theorem unique (blames : BlamesValue entry error) (blamesToo : BlamesValue entry second) :
    error = second := by
  obtain ⟨named, faulty⟩ := blames
  obtain ⟨namedToo, faultyToo⟩ := blamesToo
  obtain rfl := Utf8.encode_injective (named.trans namedToo.symm)
  cases faulty.symm.trans faultyToo
  rfl

end BlamesValue

/-! ## One header -/

theorem readText_eq_error_iff {label : String} {bytes : Bytes} :
    readText label bytes = .error error ↔
      ∃ fault, Utf8.decode bytes = .error fault ∧ .invalidText label fault = error := by
  rw [readText, mapError_eq_error]

theorem addMember_eq_ok_iff : addMember object entry = .ok after ↔
    ∃ member, encodeMember member = entry ∧ object.insert member.1 member.2 = after := by
  constructor
  · intro added
    obtain ⟨name, isName, later⟩ := bind_eq_ok.mp added
    obtain ⟨value, isValue, inserted⟩ := bind_eq_ok.mp later
    rw [readText_eq_ok_iff] at isName isValue
    exact ⟨(name, value), Prod.ext isName isValue, Except.ok.inj inserted⟩
  · rintro ⟨member, rfl, rfl⟩
    exact addMember_encodeMember object member

/-- A header whose name is text is refused for its value. -/
theorem addMember_eq_error_iff (isName : ∃ name, Utf8.encode name = entry.1) :
    addMember object entry = .error error ↔ BlamesValue entry error := by
  obtain ⟨name, named⟩ := isName
  have readName : readText Field.headerName.label entry.1 = .ok name := readText_eq_ok_iff.mpr named
  rw [addMember, readName]
  constructor
  · intro fails
    rcases bind_eq_error.mp fails with impossible | ⟨_, ⟨⟩, later⟩
    · cases impossible
    rcases bind_eq_error.mp later with readValue | ⟨_, _, impossible⟩
    · obtain ⟨fault, faulty, rfl⟩ := readText_eq_error_iff.mp readValue
      exact .intro named faulty
    · cases impossible
  · rintro ⟨namedToo, faulty⟩
    obtain rfl := Utf8.encode_injective (named.trans namedToo.symm)
    exact bind_eq_error.mpr (.inr ⟨_, rfl, bind_eq_error.mpr
      (.inl (readText_eq_error_iff.mpr ⟨_, faulty, rfl⟩))⟩)

/-! ## All headers -/

theorem exists_foldlM_addMember_iff :
    (∃ after, entries.foldlM addMember object = .ok after) ↔ ∀ entry ∈ entries, IsText entry := by
  induction entries generalizing object with
  | nil => exact iff_of_true ⟨object, rfl⟩ (List.forall_mem_nil _)
  | cons entry rest ih =>
      rw [List.forall_mem_cons]
      constructor
      · rintro ⟨after, done⟩
        obtain ⟨middle, first, later⟩ := bind_eq_ok.mp done
        obtain ⟨member, isMember, _⟩ := addMember_eq_ok_iff.mp first
        exact ⟨⟨member, isMember⟩, ih.mp ⟨after, later⟩⟩
      · rintro ⟨⟨member, rfl⟩, texts⟩
        obtain ⟨after, later⟩ := ih.mpr texts
        exact ⟨after, bind_eq_ok.mpr ⟨_, addMember_encodeMember object member, later⟩⟩

/-- The first value that is no text is the one that is blamed. -/
theorem objectOf_eq_error_iff (names : ∀ entry ∈ entries, ∃ name, Utf8.encode name = entry.1) :
    objectOf entries = .error error ↔ ∃ earlier entry later, entries = earlier ++ entry :: later ∧
      (∀ other ∈ earlier, IsText other) ∧ BlamesValue entry error := by
  rw [objectOf, foldlM_eq_error_iff]
  refine exists_congr fun earlier => exists_congr fun entry => exists_congr fun later => ?_
  refine and_congr_right fun split => ?_
  have isName := names entry (split ▸ List.mem_append_right _ List.mem_cons_self)
  simp only [addMember_eq_error_iff isName, exists_and_right, exists_foldlM_addMember_iff]

namespace Sound

theorem headersJson_inOrder_eq_error_iff (sound : Sound request)
    (same : order.Perm request.headers.entries) :
    (request.inOrder order).headersJson = .error error ↔
      ∃ earlier entry later, order = earlier ++ entry :: later ∧
        (∀ other ∈ earlier, IsText other) ∧ BlamesValue entry error := by
  have names (entry : Bytes × Bytes) (held : entry ∈ order) :=
    (sound.names entry (same.mem_iff.mp held)).isText
  rw [← objectOf_eq_error_iff names, headersJson]
  exact map_eq_error

/-- One order or another, an error is about a value that the table holds. -/
theorem exists_blamed (sound : Sound request) (same : order.Perm request.headers.entries)
    (fails : (request.inOrder order).headersJson = .error error) :
    ∃ entry ∈ request.headers.entries, IsStoredName entry.1 ∧ BlamesValue entry error := by
  obtain ⟨earlier, entry, later, rfl, _, blames⟩ :=
    (sound.headersJson_inOrder_eq_error_iff same).mp fails
  have held := same.mem_iff.mp (List.mem_append_right _ List.mem_cons_self)
  exact ⟨entry, held, sound.names entry held, blames⟩

/-- One text is written in all orders, unless some value is no text. -/
theorem headersJson_inOrder_of_hasTextValues (sound : Sound request)
    (values : HasTextValues request) : ∃ text, ∀ order, order.Perm request.headers.entries →
      (request.inOrder order).headersJson = .ok text := by
  obtain ⟨object, _, _, made⟩ := sound.exists_object values
  refine ⟨object.write, fun order same => ?_⟩
  rw [headersJson, inOrder, made order same]
  rfl

theorem exists_headersJson_ok_iff (sound : Sound request)
    (same : order.Perm request.headers.entries) :
    (∃ text, (request.inOrder order).headersJson = .ok text) ↔ HasTextValues request := by
  constructor
  · rintro ⟨text, written⟩ entry held
    obtain ⟨object, made, _⟩ := map_eq_ok.mp written
    obtain ⟨member, rfl⟩ := exists_foldlM_addMember_iff.mp ⟨object, made⟩ entry
      (same.mem_iff.mpr held)
    exact ⟨member.2, rfl⟩
  · intro values
    obtain ⟨text, always⟩ := sound.headersJson_inOrder_of_hasTextValues values
    exact ⟨text, always order same⟩

theorem exists_headersJson_error_iff (sound : Sound request)
    (same : order.Perm request.headers.entries) :
    (∃ error, (request.inOrder order).headersJson = .error error) ↔
      ∃ entry ∈ request.headers.entries, ∀ text, Utf8.encode text ≠ entry.2 := by
  rw [exists_error_iff, ← not_exists, sound.exists_headersJson_ok_iff same]
  simp [HasTextValues]

end Sound

/-- Headers are refused exactly if some value is no text, whatever order they are taken in. The error
bears the name of a header whose value is no text and says what is wrong with that value; names are
never at fault. What is written is the same in all orders, and if a single value is no text, so is
the error. -/
theorem headersJson_refuses_values (reached : Reachable request) :
    (∀ order, order.Perm request.headers.entries →
      ((∃ error, (request.inOrder order).headersJson = .error error) ↔
        ∃ entry ∈ request.headers.entries, ∀ text, Utf8.encode text ≠ entry.2) ∧
      ∀ error, (request.inOrder order).headersJson = .error error →
        ∃ entry ∈ request.headers.entries, IsStoredName entry.1 ∧
          (∀ text, Utf8.encode text ≠ entry.2) ∧ BlamesValue entry error) ∧
    ∀ order other, order.Perm request.headers.entries → other.Perm request.headers.entries →
      (∀ text, (request.inOrder order).headersJson = .ok text →
        (request.inOrder other).headersJson = .ok text) ∧
      ∀ entry ∈ request.headers.entries, (∀ text, Utf8.encode text ≠ entry.2) →
        (∀ another ∈ request.headers.entries, (∀ text, Utf8.encode text ≠ another.2) →
          another = entry) →
        (request.inOrder order).headersJson = (request.inOrder other).headersJson := by
  have sound := reached.sound
  refine ⟨fun order same => ⟨sound.exists_headersJson_error_iff same, fun error fails => ?_⟩,
    fun order other same sameToo => ⟨fun text written => ?_, fun entry held noText alone => ?_⟩⟩
  · obtain ⟨entry, held, stored, blames⟩ := sound.exists_blamed same fails
    exact ⟨entry, held, stored, blames.noText, blames⟩
  · have values := (sound.exists_headersJson_ok_iff same).mp ⟨text, written⟩
    obtain ⟨one, always⟩ := sound.headersJson_inOrder_of_hasTextValues values
    rw [always other sameToo, ← always order same, written]
  · obtain ⟨error, fails⟩ := (sound.exists_headersJson_error_iff same).mpr ⟨entry, held, noText⟩
    obtain ⟨second, failsToo⟩ :=
      (sound.exists_headersJson_error_iff sameToo).mpr ⟨entry, held, noText⟩
    obtain ⟨blamed, heldBlamed, _, blames⟩ := sound.exists_blamed same fails
    obtain ⟨another, heldAnother, _, blamesToo⟩ := sound.exists_blamed sameToo failsToo
    obtain rfl := alone blamed heldBlamed blames.noText
    obtain rfl := alone another heldAnother blamesToo.noText
    rw [fails, failsToo, blames.unique blamesToo]

/-- A text between two values that are none: one breaks off, the other has a stray byte. -/
def garbled : Request :=
  ⟨[71], [47], ⟨[([97], [65, 0xE2, 0x82]), ([98], [65]), ([99], [0xFF])]⟩, []⟩

theorem garbled_reachable : Reachable garbled := by
  have bare : build [71] [47] [] = .ok ⟨[71], [47], .empty, []⟩ := rfl
  have added : (⟨[71], [47], .empty, []⟩ : Request).withHeaders
      [("A", [65, 0xE2, 0x82]), ("b", [65]), ("C", [0xFF])] = .ok garbled := rfl
  exact .withHeaders (.build bare) added

/-- Of two values that are no texts the first is told, so that the order shows; of one it does
not. -/
theorem headersJson_refuses_values_garbled :
    Reachable garbled ∧ Reachable accented ∧
      (∃ error entry, garbled.headersJson = .error error ∧ entry ∈ garbled.headers.entries ∧
        BlamesValue entry error ∧ error = .invalidText "a" (.incomplete 1)) ∧
      (garbled.inOrder garbled.headers.entries.reverse).headersJson =
        .error (.invalidText "c" (.invalid 0 1)) ∧
      accented.headersJson =
        (accented.inOrder accented.headers.entries.reverse).headersJson := by
  obtain ⟨each, _⟩ := headersJson_refuses_values garbled_reachable
  obtain ⟨_, reorderings⟩ := headersJson_refuses_values accented_reachable
  have fails : garbled.headersJson = .error (.invalidText "a" (.incomplete 1)) := rfl
  have noText : ∀ text, Utf8.encode text ≠ [0xFF] := Utf8.decode?_eq_none_iff.mp rfl
  obtain ⟨entry, held, _, _, blames⟩ := (each _ (.refl _)).2 _ fails
  obtain ⟨_, alike⟩ := reorderings accented.headers.entries accented.headers.entries.reverse
    (.refl _) (List.reverse_perm _)
  refine ⟨garbled_reachable, accented_reachable, ⟨_, entry, fails, held, blames, rfl⟩, rfl,
    alike ([104, 111, 115, 116], [0xFF]) (by decide) noText fun another among unreadable => ?_⟩
  simp only [accented, List.mem_cons, List.not_mem_nil, or_false] at among
  rcases among with rfl | rfl
  · exact absurd rfl (unreadable "A")
  · rfl

end Request

end PluginHost
