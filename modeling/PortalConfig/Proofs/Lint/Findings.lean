import PortalConfig.Lint.Frontend
import PortalConfig.Proofs.Document

/-!
# What findings are about

A finding names the scope and, the shape of the whole frontend or of a scope apart, the key that it
is about. In a document whose objects repeat no key, the findings about a key of a scope are those
that come from linting the value under that key, and nothing else in the frontend has a say in them
(`Lint.mem_frontend_isAbout_iff`).
-/

namespace PortalConfig

/-- The finding is about a key of a scope. -/
def FrontendFinding.IsAbout (scope key : String) : FrontendFinding → Prop
  | notScopes _ | notCategories _ _ => False
  | unknownCategory own unknown => own = scope ∧ unknown = key
  | wrongShape own category _ _ => own = scope ∧ category = key
  | signInPageIgnored own => own = scope ∧ "signInPage" = key
  | atomNeverHolds own _ _ _ => own = scope ∧ "mountPoints" = key

theorem FrontendFinding.IsAbout.unique {finding : FrontendFinding}
    {scope other key otherKey : String} (first : finding.IsAbout scope key)
    (second : finding.IsAbout other otherKey) : scope = other ∧ key = otherKey := by
  cases finding with
  | notScopes | notCategories => cases first
  | unknownCategory | wrongShape | signInPageIgnored | atomNeverHolds =>
      exact ⟨first.1.symm.trans second.1, first.2.symm.trans second.2⟩

namespace Lint

open FrontendFinding

section

variable {name key : String} {value plugin doc : Doc} {finding : FrontendFinding}

/-! ## Where findings come from -/

theorem mem_frontend_iff :
    finding ∈ frontend doc ↔
      (finding = notScopes doc ∧ doc.object? = none ∧ doc ≠ .null) ∨
        ∃ name plugin, (name, plugin) ∈ doc.object?.getD [] ∧ finding ∈ scope name plugin := by
  cases doc with
  | object scopes =>
      change finding ∈ scopes.flatMap _ ↔ _
      simp [Doc.object?]
  | null => simp [frontend, Doc.object?]
  | bool _ | number _ | string _ | array _ => simp [frontend, Doc.object?]

theorem mem_scope_iff :
    finding ∈ scope name plugin ↔
      (finding = notCategories name plugin ∧ plugin.object? = none ∧ plugin ≠ .null) ∨
        ∃ key value, (key, value) ∈ plugin.object?.getD [] ∧
          finding ∈ category name key value := by
  cases plugin with
  | object members =>
      change finding ∈ members.flatMap _ ↔ _
      simp [Doc.object?]
  | null => simp [scope, Doc.object?]
  | bool _ | number _ | string _ | array _ => simp [scope, Doc.object?]

/-- The findings about a key: it is no category, its value has the wrong shape, or the content of
the value is at fault. -/
theorem mem_category_iff :
    finding ∈ category name key value ↔
      (finding = unknownCategory name key ∧ key ∉ Fragment.categories) ∨
        (finding = wrongShape name key (.ofCategory key) value ∧ key ∈ Fragment.categories ∧
          value ≠ .null ∧ (CategoryShape.ofCategory key).fits value = false) ∨
        (finding ∈ categoryContent name key value ∧ key ∈ Fragment.categories ∧
          value ≠ .null ∧ (CategoryShape.ofCategory key).fits value = true) := by
  have null : value.isNull = true ↔ value = .null := by cases value <;> simp [Doc.isNull]
  unfold category
  by_cases known : key ∈ Fragment.categories
  · by_cases given : value.isNull = true
    · simp [known, null.1 given, Doc.isNull]
    · have notNull : value ≠ .null := mt null.2 given
      cases fits : (CategoryShape.ofCategory key).fits value <;> simp [known, given, notNull, fits]
  · simp [known]

theorem mem_mountPoints_iff {entries : List Doc} :
    finding ∈ mountPoints name entries ↔
      ∃ (index : Nat) (entry : Doc) (list : String) (position : Nat),
        entries[index]? = some entry ∧ (list, position) ∈ mountPointAtoms entry ∧
          finding = atomNeverHolds name index list position := by
  unfold mountPoints
  simp only [List.mem_flatMap, List.mem_map, Prod.exists, List.mem_zipIdx_iff_getElem?]
  constructor
  · rintro ⟨entry, index, found, list, position, mem, rfl⟩
    exact ⟨index, entry, list, position, found, mem, rfl⟩
  · rintro ⟨index, entry, list, position, found, mem, rfl⟩
    exact ⟨entry, index, found, list, position, mem, rfl⟩

theorem mem_categoryContent_iff :
    finding ∈ categoryContent name key value ↔
      (finding = signInPageIgnored name ∧ key = "signInPage" ∧ namesExport value = false) ∨
        (key = "mountPoints" ∧ finding ∈ mountPoints name (value.array?.getD [])) := by
  unfold categoryContent
  by_cases page : key = "signInPage"
  · subst page
    cases namesExport value <;> simp
  · by_cases list : key = "mountPoints"
    · simp [list]
    · simp [page, list]

theorem isAbout_of_mem_category (mem : finding ∈ category name key value) :
    finding.IsAbout name key := by
  rcases mem_category_iff.1 mem with ⟨rfl, -⟩ | ⟨rfl, -⟩ | ⟨content, -⟩
  · exact ⟨rfl, rfl⟩
  · exact ⟨rfl, rfl⟩
  · rcases mem_categoryContent_iff.1 content with ⟨rfl, rfl, -⟩ | ⟨rfl, atom⟩
    · exact ⟨rfl, rfl⟩
    · obtain ⟨_, _, _, _, -, -, rfl⟩ := mem_mountPoints_iff.1 atom
      exact ⟨rfl, rfl⟩

end

/-! ## Findings of whole frontends -/

section

variable {doc : Doc} {name key : String} {members : Members Doc} {value : Doc}

theorem eq_of_mem_scopes (distinct : doc.KeysDistinct) {plugin other : Doc}
    (found : doc.get? name = some plugin) (mem : (name, other) ∈ doc.object?.getD []) :
    other = plugin := by
  obtain ⟨scopes, object, own⟩ := Option.bind_eq_some_iff.1 found
  obtain rfl := Doc.object?_eq_some_iff.1 object
  have also : Members.get? scopes name = some other := Members.get?_of_mem distinct.1 mem
  exact Option.some.inj (also.symm.trans own)

/-- **Findings are local.** The findings of a frontend about a key of a scope are those that come
from the value under the key. -/
theorem mem_frontend_isAbout_iff (distinct : doc.KeysDistinct)
    (plugin : doc.get? name = some (.object members)) (own : members.get? key = some value)
    {finding : FrontendFinding} :
    finding ∈ frontend doc ∧ finding.IsAbout name key ↔ finding ∈ category name key value := by
  have inner : members.keys.Nodup := (distinct.of_get? plugin).1
  constructor
  · rintro ⟨mem, about⟩
    rcases mem_frontend_iff.1 mem with ⟨rfl, -⟩ | ⟨other, otherPlugin, memScopes, memScope⟩
    · cases about
    rcases mem_scope_iff.1 memScope with ⟨rfl, -⟩ | ⟨otherKey, otherValue, memKeys, memCategory⟩
    · cases about
    obtain ⟨rfl, rfl⟩ := about.unique (isAbout_of_mem_category memCategory)
    obtain rfl := eq_of_mem_scopes distinct plugin memScopes
    have also : members.get? key = some otherValue := Members.get?_of_mem inner memKeys
    obtain rfl := Option.some.inj (own.symm.trans also)
    exact memCategory
  · intro mem
    refine ⟨mem_frontend_iff.2 (Or.inr ⟨name, .object members, ?_, ?_⟩),
      isAbout_of_mem_category mem⟩
    · obtain ⟨scopes, object, found⟩ := Option.bind_eq_some_iff.1 plugin
      rw [object]
      exact Members.mem_of_get?_eq_some found
    · exact mem_scope_iff.2 (Or.inr ⟨key, value, Members.mem_of_get?_eq_some own, mem⟩)

end

end Lint

end PortalConfig
