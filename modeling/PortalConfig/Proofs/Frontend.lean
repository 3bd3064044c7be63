import PortalConfig.Plugin.Frontend
import PortalConfig.Proofs.Keyed

/-!
# Reading frontends

A frontend is read scope by scope and each fragment category by category. The equations here say
what is read as list operations on the document: the scopes of an object are its members
(`Frontend.toList_ofDoc`), and a category holds the decodings of its elements
(`Fragment.decodable_eq_filterMap`).
-/

namespace PortalConfig

universe u

variable {α : Type u}

/-- The elements of a list; anything else has none. -/
def Doc.elements : Option Doc → List Doc
  | some (.array items) => items
  | _ => []

/-- The elements of the list under a key of a document. -/
def Doc.listed (key : String) (doc : Doc) : List Doc := elements (doc.get? key)

theorem Fragment.decodable_eq_filterMap (decode : Doc → Option α) (given : Option Doc) :
    decodable decode given = (Doc.elements given).filterMap decode := by
  cases given with
  | none => rfl
  | some doc => cases doc <;> rfl

/-- A fragment is read off its members; anything but an object has none. -/
theorem Fragment.ofDoc_eq_ofMembers (doc : Doc) :
    Fragment.ofDoc doc = Fragment.ofMembers (doc.object?.getD []) := by
  cases doc <;> rfl

/-- The scopes of an object are its members, decoded one by one. -/
theorem Frontend.toList_ofDoc (frontend : Keyed Doc) :
    (Frontend.ofDoc (.object frontend.members)).toList =
      frontend.members.map fun member => (member.1, Fragment.ofDoc member.2) := by
  refine Keyed.members_ofList ?_
  rw [Members.keys, List.map_map]
  exact frontend.nodup

theorem Frontend.get?_ofDoc {doc : Doc} (distinct : doc.KeysDistinct) (scope : String) :
    (ofDoc doc).get? scope = (doc.get? scope).map Fragment.ofDoc := by
  cases doc with
  | object members =>
      have revised : members.map (fun member => (member.1, Fragment.ofDoc member.2)) =
          Members.revise (fun _ plugin => some (Fragment.ofDoc plugin)) members :=
        (congrFun List.filterMap_eq_map' members).symm
      change Members.get? (ofDoc (.object members)).toList scope = _
      rw [toList_ofDoc ⟨members, distinct.1⟩, revised, Members.get?_revise _ distinct.1]
      exact Option.map_eq_bind.symm
  | null | bool _ | number _ | string _ | array _ => rfl

end PortalConfig
