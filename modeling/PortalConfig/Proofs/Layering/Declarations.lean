import PortalConfig.Proofs.Layering.Override

/-!
# Declarations in layers

A document is laid over any number of others. What one layer does to a path
(`Doc.OverriddenAt`) adds up to two laws about all of them: the keys of an object stand in
the order in which the layers first declare them (`Doc.keysAt_mergeAll`), and a value that is no
object outlasts everything declared before it (`Doc.at?_mergeAll_of_last`).
-/

namespace PortalConfig

/-! ## One layer -/

theorem Doc.keysAt_of_at?_eq_some {doc : Doc} {path : List String} {members : Members Doc}
    (found : doc.at? path = some (.object members)) : doc.keysAt path = members.keys := by
  rw [keysAt, found]

theorem Doc.keysAt_of_at?_eq_none {doc : Doc} {path : List String} (missing : doc.at? path = none) :
    doc.keysAt path = [] := by
  rw [keysAt, missing]

section OneLayer

variable {base overlay : Doc} {path : List String}

/-- On a path without anything but objects, a layer says nothing or brings its keys. -/
theorem Doc.at?_merge_of_openAlong (distinct : overlay.KeysDistinct) (below : base.OpenAlong path)
    (above : overlay.OpenAlong path) :
    overlay.at? path = none ∧ (merge base overlay).at? path = base.at? path ∨
      ∃ added members, overlay.at? path = some (.object added) ∧
        (merge base overlay).at? path = some (.object members) ∧
        Members.keys members =
          base.keysAt path ++ (Members.keys added).filter (· ∉ base.keysAt path) := by
  have step := OverriddenAt.of_merge base overlay distinct path
  cases inOverlay : overlay.at? path with
  | none => exact Or.inl ⟨rfl, step.kept inOverlay above.not_cutsOff⟩
  | some upper =>
      obtain ⟨added, rfl⟩ := above path upper List.prefix_rfl inOverlay
      refine Or.inr ⟨added, ?_⟩
      cases inBase : base.at? path with
      | none =>
          have stands := step.replaced _ inOverlay fun _ _ found => nomatch inBase.symm.trans found
          refine ⟨added, rfl, stands, ?_⟩
          simp [keysAt_of_at?_eq_none inBase]
      | some lower =>
          obtain ⟨present, rfl⟩ := below path lower List.prefix_rfl inBase
          obtain ⟨members, merged, keys⟩ := step.keys present added inBase inOverlay
          rw [keysAt_of_at?_eq_some inBase]
          exact ⟨members, rfl, merged, keys⟩

theorem Doc.OpenAlong.merge (distinct : overlay.KeysDistinct) (below : base.OpenAlong path)
    (above : overlay.OpenAlong path) : (merge base overlay).OpenAlong path := by
  intro before value start found
  rcases at?_merge_of_openAlong distinct (below.of_isPrefix start) (above.of_isPrefix start) with
    ⟨-, kept⟩ | ⟨added, members, -, merged, -⟩
  · exact below before value start (kept.symm.trans found)
  · exact ⟨members, Option.some.inj (found.symm.trans merged)⟩

/-- A layer keeps the keys that are there and appends the new ones. -/
theorem Doc.keysAt_merge (distinct : overlay.KeysDistinct) (below : base.OpenAlong path)
    (above : overlay.OpenAlong path) :
    (merge base overlay).keysAt path =
      base.keysAt path ++ (overlay.keysAt path).filter (· ∉ base.keysAt path) := by
  rcases at?_merge_of_openAlong distinct below above with
    ⟨silent, kept⟩ | ⟨added, members, declared, merged, keys⟩
  · rw [keysAt_of_at?_eq_none silent, List.filter_nil, List.append_nil, keysAt, keysAt, kept]
  · rw [keysAt_of_at?_eq_some merged, keysAt_of_at?_eq_some declared, keys]

theorem Doc.nodup_keysAt_merge (distinct : overlay.KeysDistinct) (below : base.OpenAlong path)
    (above : overlay.OpenAlong path) (nodup : (base.keysAt path).Nodup) :
    ((merge base overlay).keysAt path).Nodup := by
  rw [keysAt_merge distinct below above]
  exact nodup_append_filter nodup (distinct.nodup_keysAt path)

end OneLayer

/-! ## All layers -/

/-- The layers are documents that may be laid over each other along a path. -/
def Doc.LayersAlong (docs : List Doc) (path : List String) : Prop :=
  ∀ doc ∈ docs, doc.KeysDistinct ∧ doc.OpenAlong path

theorem Doc.openAlong_mergeAll {docs : List Doc} {base : Doc} {path : List String}
    (layers : LayersAlong docs path) (below : base.OpenAlong path) :
    (mergeAll base docs).OpenAlong path := by
  induction docs generalizing base with
  | nil => exact below
  | cons doc rest ih =>
      obtain ⟨⟨distinct, above⟩, later⟩ := List.forall_mem_cons.1 layers
      exact ih later (below.merge distinct above)

theorem Doc.nodup_keysAt_mergeAll {docs : List Doc} {base : Doc} {path : List String}
    (layers : LayersAlong docs path) (below : base.OpenAlong path)
    (nodup : (base.keysAt path).Nodup) : ((mergeAll base docs).keysAt path).Nodup := by
  induction docs generalizing base with
  | nil => exact nodup
  | cons doc rest ih =>
      obtain ⟨⟨distinct, above⟩, later⟩ := List.forall_mem_cons.1 layers
      exact ih later (below.merge distinct above) (nodup_keysAt_merge distinct below above nodup)

/-- The keys of an object stand in the order in which the layers first declare them. -/
theorem Doc.keysAt_mergeAll {docs : List Doc} {base : Doc} {path : List String}
    (layers : LayersAlong docs path) (below : base.OpenAlong path)
    (nodup : (base.keysAt path).Nodup) :
    (mergeAll base docs).keysAt path =
      (base.keysAt path ++ docs.flatMap (·.keysAt path)).eraseDups := by
  induction docs generalizing base with
  | nil =>
      rw [List.flatMap_nil, List.append_nil, eraseDups_of_nodup nodup]
      rfl
  | cons doc rest ih =>
      obtain ⟨⟨distinct, above⟩, later⟩ := List.forall_mem_cons.1 layers
      calc (mergeAll base (doc :: rest)).keysAt path
          = ((merge base doc).keysAt path ++ rest.flatMap (·.keysAt path)).eraseDups :=
            ih later (below.merge distinct above) (nodup_keysAt_merge distinct below above nodup)
        _ = (base.keysAt path ++ (doc :: rest).flatMap (·.keysAt path)).eraseDups := by
            rw [keysAt_merge distinct below above,
              eraseDups_append_filter_append nodup (distinct.nodup_keysAt path),
              List.flatMap_cons]

theorem Doc.at?_mergeAll_of_untouched {docs : List Doc} {base : Doc} {path : List String}
    {key : String} (layers : LayersAlong docs path)
    (silent : ∀ doc ∈ docs, doc.at? (path ++ [key]) = none) :
    (mergeAll base docs).at? (path ++ [key]) = base.at? (path ++ [key]) := by
  induction docs generalizing base with
  | nil => rfl
  | cons doc rest ih =>
      obtain ⟨⟨distinct, above⟩, later⟩ := List.forall_mem_cons.1 layers
      obtain ⟨absent, silentRest⟩ := List.forall_mem_cons.1 silent
      have step := OverriddenAt.of_merge base doc distinct (path ++ [key])
      exact (ih later silentRest).trans (step.kept absent (above.not_cutsOff_concat key))

/-- A value that is no object stands as the last layer that declares it has it. -/
theorem Doc.at?_mergeAll_of_last {docs : List Doc} {base value : Doc} {path : List String}
    {key : String} (layers : LayersAlong docs path)
    (last : docs.reverse.findSome? (·.at? (path ++ [key])) = some value)
    (plain : value.object? = none) :
    (mergeAll base docs).at? (path ++ [key]) = some value := by
  -- The last layer that declares the value puts it there, and those after it do not touch the path.
  obtain ⟨later, doc, earlier, eq, declared, silent⟩ := List.findSome?_eq_some_iff.1 last
  have order : docs = earlier.reverse ++ doc :: later.reverse := by
    rw [← List.reverse_reverse docs, eq]
    simp
  subst order
  obtain ⟨-, fromDoc⟩ := List.forall_mem_append.1 layers
  obtain ⟨⟨distinct, -⟩, afterDoc⟩ := List.forall_mem_cons.1 fromDoc
  have step := OverriddenAt.of_merge (mergeAll base earlier.reverse) doc distinct (path ++ [key])
  have merged : mergeAll base (earlier.reverse ++ doc :: later.reverse) =
      mergeAll (merge (mergeAll base earlier.reverse) doc) later.reverse := List.foldl_append
  rw [merged, at?_mergeAll_of_untouched afterDoc fun other mem =>
    silent other (List.mem_reverse.1 mem)]
  refine step.replaced value declared fun _ _ _ object => ?_
  rw [object] at plain
  cases plain

end PortalConfig
