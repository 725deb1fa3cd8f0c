import PluginHost.Proofs.Json.Members
import PluginHost.Proofs.Json.Writing
import PluginHost.Proofs.Request.Reachable

/-!
# Headers as JSON

Headers whose values are texts are written as one JSON object, in whatever order the table gives
them. The text denotes exactly the headers, so requests with the same text hold the same headers.
-/

namespace PluginHost

open PluginHost.Text
open PluginHost.Outcome (bind_eq_ok)

namespace Request

variable {request : Request} {object : Json.Object}

/-- A member as it stands in a table. -/
def encodeMember (member : String × String) : Bytes × Bytes :=
  (Utf8.encode member.1, Utf8.encode member.2)

theorem encodeMember_injective {first second : String × String}
    (same : encodeMember first = encodeMember second) : first = second := by
  obtain ⟨names, values⟩ := Prod.mk.inj same
  exact Prod.ext (Utf8.encode_injective names) (Utf8.encode_injective values)

/-- Name and value are texts. -/
def IsText (entry : Bytes × Bytes) : Prop := ∃ member, encodeMember member = entry

theorem addMember_encodeMember (object : Json.Object) (member : String × String) :
    addMember object (encodeMember member) = .ok (object.insert member.1 member.2) := by
  have name {label : String} : readText label (Utf8.encode member.1) = .ok member.1 :=
    readText_eq_ok_iff.mpr rfl
  have value {label : String} : readText label (Utf8.encode member.2) = .ok member.2 :=
    readText_eq_ok_iff.mpr rfl
  rw [addMember, encodeMember, name]
  exact bind_eq_ok.mpr ⟨_, rfl, bind_eq_ok.mpr ⟨_, value, rfl⟩⟩

/-- An entry that is text is added as it is, in its place, if its name is new. -/
theorem addMember_of_new {entry : Bytes × Bytes} (ordered : Json.Object.Ordered object.members)
    (isText : IsText entry) (new : entry.1 ∉ (object.members.map encodeMember).map Prod.fst) :
    ∃ after, addMember object entry = .ok after ∧ Json.Object.Ordered after.members ∧
      (after.members.map encodeMember).Perm (entry :: object.members.map encodeMember) := by
  obtain ⟨member, rfl⟩ := isText
  have newKey : member.1 ∉ object.members.map Prod.fst := by
    intro held
    obtain ⟨other, among, same⟩ := List.mem_map.mp held
    have encoded : Utf8.encode other.1 ∈ (object.members.map encodeMember).map Prod.fst :=
      List.mem_map_of_mem (List.mem_map_of_mem among)
    rw [same] at encoded
    exact new encoded
  exact ⟨_, addMember_encodeMember object member,
    Json.Object.ordered_insertMember ordered member.1 member.2,
    (Json.Object.insertMember_perm newKey member.2).map encodeMember⟩

/-- Entries that are texts are added one after the other; none of them has the name of another one
or of a member. -/
theorem foldlM_addMember {entries : List (Bytes × Bytes)}
    (ordered : Json.Object.Ordered object.members) (texts : ∀ entry ∈ entries, IsText entry)
    (distinct : ((object.members.map encodeMember ++ entries).map Prod.fst).Nodup) :
    ∃ after, entries.foldlM addMember object = .ok after ∧ Json.Object.Ordered after.members ∧
      (after.members.map encodeMember).Perm (object.members.map encodeMember ++ entries) := by
  induction entries generalizing object with
  | nil => exact ⟨object, rfl, ordered, by rw [List.append_nil]⟩
  | cons entry rest ih =>
      obtain ⟨isText, textsRest⟩ := List.forall_mem_cons.mp texts
      have new : entry.1 ∉ (object.members.map encodeMember).map Prod.fst := by
        intro held
        rw [List.map_append] at distinct
        exact (List.nodup_append.mp distinct).2.2 _ held _ List.mem_cons_self rfl
      obtain ⟨middle, first, orderedMiddle, permMiddle⟩ := addMember_of_new ordered isText new
      have perm : (middle.members.map encodeMember ++ rest).Perm
          (object.members.map encodeMember ++ entry :: rest) :=
        (permMiddle.append_right rest).trans List.perm_middle.symm
      obtain ⟨after, later, orderedAfter, permAfter⟩ :=
        ih orderedMiddle textsRest ((perm.map Prod.fst).nodup_iff.mpr distinct)
      exact ⟨after, bind_eq_ok.mpr ⟨middle, first, later⟩, orderedAfter, permAfter.trans perm⟩

theorem objectOf_of_isText {entries : List (Bytes × Bytes)}
    (texts : ∀ entry ∈ entries, IsText entry) (distinct : (entries.map Prod.fst).Nodup) :
    ∃ object, objectOf entries = .ok object ∧ Json.Object.Ordered object.members ∧
      (object.members.map encodeMember).Perm entries :=
  foldlM_addMember List.Pairwise.nil texts distinct

/-- Objects whose members stand for the same entries are equal. -/
theorem object_eq {object other : Json.Object} (ordered : Json.Object.Ordered object.members)
    (orderedOther : Json.Object.Ordered other.members)
    (perm : (object.members.map encodeMember).Perm (other.members.map encodeMember)) :
    object = other := by
  have injective : Function.Injective encodeMember := fun _ _ => encodeMember_injective
  have members_eq := ordered.eq_of_perm orderedOther ((List.map_perm_map_iff injective).mp perm)
  cases object
  cases other
  exact congrArg _ members_eq

/-- The values are texts; the names of a reachable request always are. -/
def HasTextValues (request : Request) : Prop :=
  ∀ entry ∈ request.headers.entries, ∃ text, Utf8.encode text = entry.2

theorem Sound.isText (sound : Sound request) (values : HasTextValues request)
    {entry : Bytes × Bytes} (held : entry ∈ request.headers.entries) : IsText entry := by
  obtain ⟨name, isName⟩ := (sound.names entry held).isText
  obtain ⟨value, isValue⟩ := values entry held
  exact ⟨(name, value), Prod.ext isName isValue⟩

/-- There is one object that the headers are written as, whatever order they are taken in. -/
theorem Sound.exists_object (sound : Sound request) (values : HasTextValues request) :
    ∃ object : Json.Object, Json.Object.Ordered object.members ∧
      (object.members.map encodeMember).Perm request.headers.entries ∧
      ∀ entries, entries.Perm request.headers.entries → objectOf entries = .ok object := by
  obtain ⟨object, made, ordered, perm⟩ :=
    objectOf_of_isText (fun entry => sound.isText values) sound.distinct
  refine ⟨object, ordered, perm, fun entries same => ?_⟩
  obtain ⟨other, madeOther, orderedOther, permOther⟩ :=
    objectOf_of_isText (fun entry held => sound.isText values (same.mem_iff.mp held))
      ((same.map Prod.fst).nodup_iff.mpr sound.distinct)
  rw [madeOther, object_eq orderedOther ordered (permOther.trans (same.trans perm.symm))]

theorem le_of_mem_encode {text : String} (visible : Json.Visible text.toList) {byte : UInt8}
    (member : byte ∈ Utf8.encode text) : 0x20 ≤ byte := by
  obtain ⟨char, inText, inChar⟩ := List.mem_flatMap.mp member
  have large := visible char inText
  rw [UInt8.le_iff_toNat_le]
  by_cases small : char.toNat < 0x80
  · rw [Utf8.encodeChar_of_lt small, List.mem_singleton] at inChar
    rw [inChar, Utf8.toNat_toUInt8 _ (by omega)]
    exact large
  · exact Nat.le_trans (by decide) (Utf8.le_of_mem_encodeChar (Nat.not_lt.mp small) inChar)

theorem Sound.headersJson_eq_iff {first second : Request} (soundFirst : Sound first)
    (soundSecond : Sound second) (valuesFirst : HasTextValues first)
    (valuesSecond : HasTextValues second) :
    first.headersJson = second.headersJson ↔
      ∀ entry, entry ∈ first.headers.entries ↔ entry ∈ second.headers.entries := by
  obtain ⟨one, orderedOne, permOne, madeOne⟩ := soundFirst.exists_object valuesFirst
  obtain ⟨other, orderedOther, permOther, madeOther⟩ := soundSecond.exists_object valuesSecond
  have perm_iff := List.perm_ext_iff_of_nodup (HeaderTable.nodup_entries soundFirst.distinct)
    (HeaderTable.nodup_entries soundSecond.distinct)
  rw [headersJson, headersJson, madeOne _ (.refl _), madeOther _ (.refl _), ← perm_iff]
  constructor
  · intro same
    -- One text denotes one value, so the two objects have the same members.
    have denoted := one.denotes_write_iff.mpr rfl
    rw [Except.ok.inj same, other.denotes_write_iff, Json.Value.object.injEq] at denoted
    have members_eq := (List.map_inj_right fun _ _ => Json.textMember_injective).mp denoted
    rw [members_eq] at permOne
    exact permOne.symm.trans permOther
  · intro perm
    rw [object_eq orderedOne orderedOther (permOne.trans (perm.trans permOther.symm))]

/-- If the values of all headers are texts, the headers are written as one text in whatever order
they are taken. It denotes an object whose members are exactly the headers, in strictly increasing
order of their names' bytes, and it holds no control character. So two requests are written the same
way exactly if they hold the same headers. -/
theorem headersJson_canonical :
    (∀ request, Reachable request → HasTextValues request →
      ∃ (text : String) (members : List (String × String)),
        request.headersJson = .ok text ∧
        (∀ entries, entries.Perm request.headers.entries →
          (objectOf entries).map Json.Object.write = .ok text) ∧
        (∀ value, Json.Denotes text.toList value ↔ value = .object (members.map Json.textMember)) ∧
        (members.map encodeMember).Perm request.headers.entries ∧
        (members.Pairwise fun first second => Utf8.encode first.1 < Utf8.encode second.1) ∧
        ∀ byte ∈ Utf8.encode text, 0x20 ≤ byte) ∧
      ∀ first second, Reachable first → Reachable second → HasTextValues first →
        HasTextValues second → (first.headersJson = second.headersJson ↔
          ∀ entry, entry ∈ first.headers.entries ↔ entry ∈ second.headers.entries) := by
  refine ⟨fun request reached values => ?_, fun first second reachedFirst reachedSecond => ?_⟩
  · obtain ⟨object, ordered, perm, made⟩ := reached.sound.exists_object values
    have written (entries : List (Bytes × Bytes)) (same : entries.Perm request.headers.entries) :
        (objectOf entries).map Json.Object.write = .ok object.write := by
      rw [made entries same]
      rfl
    exact ⟨object.write, object.members, written _ (.refl _), written,
      fun value => object.denotes_write_iff, perm, ordered,
      fun byte => le_of_mem_encode object.visible_write⟩
  · exact reachedFirst.sound.headersJson_eq_iff reachedSecond.sound

/-- Headers with a quotation mark, a backslash, two controls and a letter outside ASCII. -/
def quoted : Request :=
  ⟨[71], [47], ⟨[([98, 34], [92, 10, 1, 195, 169]), ([97], [47])]⟩, []⟩

theorem quoted_reachable : Reachable quoted := by
  have bare : build [71] [47] [] = .ok ⟨[71], [47], .empty, []⟩ := rfl
  have added : (⟨[71], [47], .empty, []⟩ : Request).withHeaders
      [("B\"", [0xFF]), ("A", [47]), ("b\"", [92, 10, 1, 195, 169])] = .ok quoted := rfl
  exact .withHeaders (.build bare) added

theorem headersJson_canonical_quoted :
    Reachable quoted ∧ HasTextValues quoted ∧
      ∃ (text : String) (members : List (String × String)),
        quoted.headersJson = .ok text ∧
        text = "\x7b\"a\":\"/\",\"b\\\"\":\"\\\\\\n\\u0001é\"\x7d" ∧
        Json.Denotes text.toList (.object (members.map Json.textMember)) ∧
        (members.map encodeMember).Perm quoted.headers.entries ∧
        (objectOf quoted.headers.entries.reverse).map Json.Object.write = .ok text := by
  have values : HasTextValues quoted := by
    intro entry held
    simp only [quoted, List.mem_cons, List.not_mem_nil, or_false] at held
    rcases held with rfl | rfl
    · exact ⟨"\\\n\x01é", rfl⟩
    · exact ⟨"/", rfl⟩
  obtain ⟨each, _⟩ := headersJson_canonical
  obtain ⟨text, members, written, reordered, denotes, perm, _⟩ := each _ quoted_reachable values
  have computed : quoted.headersJson =
    .ok "\x7b\"a\":\"/\",\"b\\\"\":\"\\\\\\n\\u0001é\"\x7d" := rfl
  exact ⟨quoted_reachable, values, text, members, written,
    Except.ok.inj (written.symm.trans computed), (denotes _).mpr rfl, perm,
    reordered _ (List.reverse_perm _)⟩

end Request

end PluginHost
