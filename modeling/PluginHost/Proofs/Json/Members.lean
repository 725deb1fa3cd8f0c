import PluginHost.Json.Object
import PluginHost.Proofs.Text.Utf8

/-!
# Members in order

The members of an object stand in strictly increasing order of their keys, which putting in a member
keeps. So the members alone decide how they are ordered.
-/

namespace PluginHost.Json.Object

open PluginHost.Text

variable {members : List (String × String)} {key value : String}

/-- The keys increase strictly, as byte strings. -/
def Ordered (members : List (String × String)) : Prop :=
  members.Pairwise fun first second => Utf8.encode first.1 < Utf8.encode second.1

theorem insertMember_perm (new : key ∉ members.map Prod.fst) (value : String) :
    (insertMember key value members).Perm ((key, value) :: members) := by
  induction members with
  | nil => exact .refl _
  | cons member rest ih =>
      rw [List.map_cons, List.mem_cons, not_or] at new
      rw [insertMember, if_neg new.1]
      split
      · exact .refl _
      · exact ((ih new.2).cons member).trans (.swap _ _ _)

theorem eq_or_mem_of_mem_insertMember {member : String × String}
    (inserted : member ∈ insertMember key value members) :
    member = (key, value) ∨ member ∈ members := by
  induction members with
  | nil => exact .inl (List.mem_singleton.mp inserted)
  | cons other rest ih =>
      rw [insertMember] at inserted
      split at inserted
      · exact (List.mem_cons.mp inserted).imp_right (List.mem_cons_of_mem other)
      split at inserted
      · exact List.mem_cons.mp inserted
      · rcases List.mem_cons.mp inserted with here | later
        · exact .inr (here ▸ List.mem_cons_self)
        · exact (ih later).imp_right (List.mem_cons_of_mem other)

theorem ordered_insertMember (ordered : Ordered members) (key value : String) :
    Ordered (insertMember key value members) := by
  induction members with
  | nil => exact List.pairwise_singleton _ _
  | cons member rest ih =>
      obtain ⟨least, orderedRest⟩ := List.pairwise_cons.mp ordered
      rw [insertMember]
      split
      · next same =>
          subst same
          exact List.pairwise_cons.mpr ⟨least, orderedRest⟩
      split
      · next before =>
          refine List.pairwise_cons.mpr ⟨fun other held => ?_, ordered⟩
          rcases List.mem_cons.mp held with rfl | later
          · exact before
          · exact List.lt_trans before (least other later)
      · next distinct notBefore =>
          refine List.pairwise_cons.mpr ⟨fun other held => ?_, ih orderedRest⟩
          rcases eq_or_mem_of_mem_insertMember held with rfl | later
          · have apart : Utf8.encode member.1 ≠ Utf8.encode key :=
              fun same => distinct (Utf8.encode_injective same).symm
            exact Std.lt_of_le_of_ne (List.not_lt.mp notBefore) apart
          · exact least other later

/-- The same members stand in the same order. -/
theorem Ordered.eq_of_perm {others : List (String × String)} (ordered : Ordered members)
    (orderedOthers : Ordered others) (perm : members.Perm others) : members = others := by
  refine perm.eq_of_pairwise (fun first second _ _ before after => ?_) ordered orderedOthers
  exact absurd after (List.lt_asymm before)

end PluginHost.Json.Object
