import PortalConfig.Doc.Merge
import PortalConfig.Proofs.Document

/-!
# What layering overrides

A document laid over another one decides path by path. `Doc.at?` reads the value at a path of
keys, and `Doc.OverriddenAt` says what has to stand there in the merged document: what the overlay
says, nothing where the overlay cuts the path off, and what the base says everywhere else.
`Doc.overriddenAt_merge` is the agreement with `Doc.merge`, which works member by member and never
sees a path.
-/

namespace PortalConfig

/-- What a path holds after `overlay` has been laid over `base`. -/
structure Doc.OverriddenAt (base overlay merged : Doc) (path : List String) : Prop where
  /-- Two objects are merged in their turn. -/
  objects (below above : Members Doc) : base.at? path = some (.object below) →
    overlay.at? path = some (.object above) →
    merged.at? path = some (merge (.object below) (.object above))
  /-- The keys of the lower object come first, in their order, then the new ones in theirs. -/
  keys (below above : Members Doc) : base.at? path = some (.object below) →
    overlay.at? path = some (.object above) →
    ∃ members, merged.at? path = some (.object members) ∧
      Members.keys members = below.keys ++ above.keys.filter (· ∉ below.keys)
  /-- Any other value of the overlay stands as it is. -/
  replaced (value : Doc) : overlay.at? path = some value →
    (∀ below above, base.at? path = some (.object below) → value ≠ .object above) →
    merged.at? path = some value
  /-- Nothing is left below a value of the overlay that is no object. -/
  cutOff : overlay.at? path = none → overlay.CutsOff path → merged.at? path = none
  /-- What the overlay does not touch is kept, there or not. -/
  kept : overlay.at? path = none → ¬ overlay.CutsOff path → merged.at? path = base.at? path

/-! ## Members of merged objects -/

/-- The value of a member after another one has been laid over it. -/
def Doc.layered (present : Option Doc) (value : Doc) : Doc :=
  match present with
  | some existing => merge existing value
  | none => value

theorem Doc.mergeMembers_cons (base : Members Doc) (key : String) (value : Doc)
    (rest : Members Doc) :
    mergeMembers base ((key, value) :: rest) =
      mergeMembers (Members.upsert base key fun present => layered present value) rest := by
  rw [mergeMembers]
  rfl

theorem Doc.get?_mergeMembers (base : Members Doc) {overlay : Members Doc}
    (distinct : overlay.keys.Nodup) (key : String) :
    Members.get? (mergeMembers base overlay) key =
      match overlay.get? key with
      | some value => some (layered (base.get? key) value)
      | none => base.get? key := by
  induction overlay generalizing base with
  | nil => rfl
  | cons head rest ih =>
      obtain ⟨own, value⟩ := head
      obtain ⟨absent, distinctRest⟩ := List.nodup_cons.1 distinct
      rw [mergeMembers_cons, ih _ distinctRest, Members.get?]
      by_cases same : own = key
      · -- The key does not come up again, so the rest leaves its value as it is.
        subst same
        rw [(Members.get?_eq_none_iff rest own).2 absent, if_pos rfl]
        exact Members.get?_upsert_self base own _
      · rw [if_neg same, Members.get?_upsert_of_ne base _ (Ne.symm same)]

theorem Doc.keys_mergeMembers (base : Members Doc) {overlay : Members Doc}
    (distinct : overlay.keys.Nodup) :
    Members.keys (mergeMembers base overlay) =
      base.keys ++ overlay.keys.filter (· ∉ base.keys) := by
  induction overlay generalizing base with
  | nil => exact (List.append_nil _).symm
  | cons head rest ih =>
      obtain ⟨own, value⟩ := head
      obtain ⟨absent, distinctRest⟩ := List.nodup_cons.1 distinct
      rw [mergeMembers_cons, ih _ distinctRest, Members.keys_upsert]
      change _ = base.keys ++ (own :: Members.keys rest).filter _
      by_cases present : own ∈ base.keys
      · rw [if_pos present, List.filter_cons_of_neg (by simpa using present)]
      · have others : (Members.keys rest).filter (· ∉ base.keys ++ [own]) =
            (Members.keys rest).filter (· ∉ base.keys) := by
          refine List.filter_congr fun key mem => ?_
          have ne : key ≠ own := fun eq => absent (eq ▸ mem)
          simp [ne]
        rw [if_neg present, List.filter_cons_of_pos (by simpa using present), others,
          List.append_assoc, List.singleton_append]

/-! ## Paths of merged documents -/

theorem Doc.merge_of_not_object {base overlay : Doc}
    (plain : base.object? = none ∨ overlay.object? = none) : merge base overlay = overlay := by
  cases base with
  | object below =>
      cases overlay with
      | object above => rcases plain with plain | plain <;> cases plain
      | null | bool _ | number _ | string _ | array _ => rw [merge]; exact nofun
  | null | bool _ | number _ | string _ | array _ => rw [merge]; exact nofun

section OverriddenAt

variable {base overlay merged : Doc} {path : List String}

/-- Where the base has nothing, the overlay stands as it is. -/
theorem Doc.OverriddenAt.of_base_eq_none (missing : base.at? path = none)
    (same : merged.at? path = overlay.at? path) : OverriddenAt base overlay merged path where
  objects _ _ found _ := nomatch missing.symm.trans found
  keys _ _ found _ := nomatch missing.symm.trans found
  replaced _ found _ := same.trans found
  cutOff absent _ := same.trans absent
  kept absent _ := same.trans (absent.trans missing.symm)

theorem Doc.OverriddenAt.of_cutsOff (absent : overlay.at? path = none)
    (severed : overlay.CutsOff path) (nothing : merged.at? path = none) :
    OverriddenAt base overlay merged path where
  objects _ _ _ found := nomatch absent.symm.trans found
  keys _ _ _ found := nomatch absent.symm.trans found
  replaced _ found _ := nomatch absent.symm.trans found
  cutOff _ _ := nothing
  kept _ reachable := (reachable severed).elim

theorem Doc.OverriddenAt.of_untouched (absent : overlay.at? path = none)
    (reachable : ¬ overlay.CutsOff path) (same : merged.at? path = base.at? path) :
    OverriddenAt base overlay merged path where
  objects _ _ _ found := nomatch absent.symm.trans found
  keys _ _ _ found := nomatch absent.symm.trans found
  replaced _ found _ := nomatch absent.symm.trans found
  cutOff _ severed := (reachable severed).elim
  kept _ _ := same

end OverriddenAt

/-- Under a key that all three documents have, a path is overridden as in their values. -/
theorem Doc.OverriddenAt.descend {base overlay merged below above under : Doc} {key : String}
    {rest : List String} (inBase : base.get? key = some below)
    (inOverlay : overlay.get? key = some above) (inMerged : merged.get? key = some under)
    (inner : OverriddenAt below above under rest) :
    OverriddenAt base overlay merged (key :: rest) := by
  have severed : overlay.CutsOff (key :: rest) ↔ above.CutsOff rest := by
    rw [cutsOff_cons_iff, inOverlay]
    have object : overlay.object? ≠ none := by
      intro plain
      rw [get?, plain] at inOverlay
      cases inOverlay
    simp [object]
  constructor <;>
    simp only [at?_cons_of_get? inBase, at?_cons_of_get? inOverlay, at?_cons_of_get? inMerged,
      severed]
  · exact inner.objects
  · exact inner.keys
  · exact inner.replaced
  · exact inner.cutOff
  · exact inner.kept

/-- The keys of the overlay's objects are distinct, as in every document read from text; the base
may be any document. -/
theorem Doc.OverriddenAt.of_merge (base overlay : Doc) (distinct : overlay.KeysDistinct)
    (path : List String) : OverriddenAt base overlay (merge base overlay) path := by
  -- At its end the path stands for the documents themselves; before that its first key is merged
  -- on its own, and the rest of the path goes on in the values under it.
  induction path generalizing base overlay with
  | nil =>
      constructor
      · intro below above inBase inOverlay
        cases inBase
        cases inOverlay
        rfl
      · intro below above inBase inOverlay
        cases inBase
        cases inOverlay
        exact ⟨_, rfl, keys_mergeMembers below distinct.1⟩
      · intro value inOverlay plain
        cases inOverlay
        refine congrArg some (merge_of_not_object ?_)
        cases base with
        | object below =>
            cases overlay with
            | object above => exact (plain below above rfl rfl).elim
            | null | bool _ | number _ | string _ | array _ => exact Or.inr rfl
        | null | bool _ | number _ | string _ | array _ => exact Or.inl rfl
      · exact nofun
      · exact nofun
  | cons key rest ih =>
      cases overlay with
      | object above =>
          cases base with
          | object below =>
              have inMerged : (merge (.object below) (.object above)).get? key =
                  match (Doc.object above).get? key with
                  | some value => some (layered ((Doc.object below).get? key) value)
                  | none => (Doc.object below).get? key :=
                get?_mergeMembers below distinct.1 key
              cases inOverlay : (Doc.object above).get? key with
              | none =>
                  rw [inOverlay] at inMerged
                  refine .of_untouched (at?_cons_eq_none inOverlay rest) ?_
                    (congrArg (·.bind (at? · rest)) inMerged)
                  rw [cutsOff_cons_iff]
                  rintro (plain | ⟨value, found, -⟩)
                  · cases plain
                  · exact nomatch inOverlay.symm.trans found
              | some value =>
                  rw [inOverlay] at inMerged
                  have inner : value.KeysDistinct :=
                    keysDistinct_of_mem_members distinct.2 _
                      (Members.mem_of_get?_eq_some inOverlay)
                  cases inBase : (Doc.object below).get? key with
                  | none =>
                      rw [inBase] at inMerged
                      exact .of_base_eq_none (at?_cons_eq_none inBase rest)
                        ((at?_cons_of_get? inMerged rest).trans
                          (at?_cons_of_get? inOverlay rest).symm)
                  | some existing =>
                      rw [inBase] at inMerged
                      exact .descend inBase inOverlay inMerged (ih existing value inner)
          | null | bool _ | number _ | string _ | array _ =>
              rw [merge_of_not_object (Or.inl rfl)]
              exact .of_base_eq_none rfl rfl
      | null | bool _ | number _ | string _ | array _ =>
          rw [merge_of_not_object (Or.inr rfl)]
          exact .of_cutsOff rfl (cutsOff_cons_iff.2 (Or.inl rfl)) rfl

/-- There is a single way to override: no path is left open. -/
theorem Doc.OverriddenAt.at?_eq {base overlay merged other : Doc} {path : List String}
    (first : OverriddenAt base overlay merged path)
    (second : OverriddenAt base overlay other path) : merged.at? path = other.at? path := by
  cases inOverlay : overlay.at? path with
  | none =>
      by_cases severed : overlay.CutsOff path
      · rw [first.cutOff inOverlay severed, second.cutOff inOverlay severed]
      · rw [first.kept inOverlay severed, second.kept inOverlay severed]
  | some value =>
      by_cases both : ∃ below above, base.at? path = some (.object below) ∧ value = .object above
      · obtain ⟨below, above, inBase, rfl⟩ := both
        rw [first.objects below above inBase inOverlay, second.objects below above inBase inOverlay]
      · have single : ∀ below above, base.at? path = some (.object below) →
            value ≠ .object above :=
          fun below above inBase object => both ⟨below, above, inBase, object⟩
        rw [first.replaced value inOverlay single, second.replaced value inOverlay single]

/-- **Merging is overriding at every path**, and nothing else is: a document that overrides the base
everywhere holds what the merged one holds. -/
theorem Doc.overriddenAt_merge (base overlay : Doc) (distinct : overlay.KeysDistinct) :
    (∀ path, OverriddenAt base overlay (merge base overlay) path) ∧
      ∀ other, (∀ path, OverriddenAt base overlay other path) →
        ∀ path, other.at? path = (merge base overlay).at? path := by
  refine ⟨OverriddenAt.of_merge base overlay distinct, fun other overridden path => ?_⟩
  exact (overridden path).at?_eq (OverriddenAt.of_merge base overlay distinct path)

/-- A document with an object, a list, a scalar and a value that the overlay leaves alone. -/
def Doc.baseSample : Doc :=
  .object
    [("site", .object
        [("title", .string "Portal"), ("tags", .strings ["a", "b"]),
          ("owner", .object [("name", .string "ops")])]),
      ("limit", .int 1)]

/-- A document that goes into one object of the other, replaces a list, puts a `null` in the place
of an object and an object in the place of a scalar, and adds keys at two depths. -/
def Doc.overlaySample : Doc :=
  .object
    [("theme", .object []),
      ("limit", .object [("max", .int 2)]),
      ("site", .object
        [("lang", .string "en"), ("owner", .null), ("tags", .strings ["c"])])]

theorem Doc.overriddenAt_merge_samples :
    overlaySample.KeysDistinct ∧
      OverriddenAt baseSample overlaySample (merge baseSample overlaySample) ["site"] ∧
      OverriddenAt baseSample overlaySample (merge baseSample overlaySample)
        ["site", "owner", "name"] ∧
      merge baseSample overlaySample = .object
        [("site", .object
            [("title", .string "Portal"), ("tags", .strings ["c"]), ("owner", .null),
              ("lang", .string "en")]),
          ("limit", .object [("max", .int 2)]),
          ("theme", .object [])] := by
  have distinct : overlaySample.KeysDistinct := by
    simp [overlaySample, KeysDistinct, ItemsDistinct, MembersDistinct, Members.keys, strings]
  have overridden := (overriddenAt_merge baseSample overlaySample distinct).1
  exact ⟨distinct, overridden ["site"], overridden ["site", "owner", "name"], rfl⟩

end PortalConfig
