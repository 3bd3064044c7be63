import PortalConfig.Doc.Basic

/-!
# Layering documents

A later document is laid over an earlier one: objects merge member by member at every depth, and
anything else replaces what was there, `null` included. Members keep the place they had, new ones
come after them.
-/

namespace PortalConfig.Doc

mutual

/-- Lays `overlay` over `base`. -/
def merge : (base overlay : Doc) → Doc
  | .object base, .object overlay => .object (mergeMembers base overlay)
  | _, overlay => overlay

/-- Lays the members of an overlay over those of an object, one after the other. -/
def mergeMembers (base : List (String × Doc)) :
    (overlay : List (String × Doc)) → List (String × Doc)
  | [] => base
  | (key, value) :: rest =>
    mergeMembers (Members.upsert base key fun present =>
      match present with
      | some existing => merge existing value
      | none => value) rest

end

/-- Lays documents over a base one after the other. -/
def mergeAll (base : Doc) (overlays : List Doc) : Doc := overlays.foldl merge base

end PortalConfig.Doc
