import PortalConfig.Proofs.Layering.Loading

/-!
# Grouping layers

Laying documents over each other may be grouped in any way, as long as nothing that is no object
stands in a middle layer between objects of the layers around it (`Doc.merge_merge`). Such a value
wipes out what is below it when the layers are laid one after the other, and is itself wiped out
when the upper two are put together first. A layer laid over itself changes nothing
(`Doc.merge_self`), so a layer that comes twice in a row counts once, and so does a file that is
loaded twice in a row (`AppConfig.load_repeated`).
-/

namespace PortalConfig

/-! ## Merged objects -/

theorem Doc.merge_object (below above : Members Doc) :
    merge (.object below) (.object above) = .object (mergeMembers below above) := by
  rw [merge]

theorem Doc.nodup_keys_mergeMembers {below above : Members Doc} (distinct : below.keys.Nodup)
    (distinctAbove : above.keys.Nodup) : (Members.keys (mergeMembers below above)).Nodup := by
  rw [keys_mergeMembers below distinctAbove]
  exact nodup_append_filter distinct distinctAbove

/-- Merging documents without repeated keys repeats no key. -/
theorem Doc.KeysDistinct.merge {base overlay : Doc} (distinct : base.KeysDistinct)
    (distinctAbove : overlay.KeysDistinct) : (Doc.merge base overlay).KeysDistinct := by
  induction overlay using object_induction generalizing base with
  | plain overlay plain =>
      rw [merge_of_not_object (Or.inr plain)]
      exact distinctAbove
  | object above ih =>
      cases base with
      | object below =>
          obtain ⟨nodupAbove, inner⟩ := keysDistinct_object_iff.1 distinctAbove
          obtain ⟨nodup, innerBelow⟩ := keysDistinct_object_iff.1 distinct
          rw [merge_object, keysDistinct_object_iff]
          refine ⟨nodup_keys_mergeMembers nodup nodupAbove, fun key value found => ?_⟩
          rw [get?_mergeMembers below nodupAbove] at found
          cases given : Members.get? above key with
          | none =>
              rw [given] at found
              exact innerBelow key value found
          | some upper =>
              rw [given] at found
              cases present : Members.get? below key with
              | none =>
                  rw [present] at found
                  obtain rfl := Option.some.inj found
                  exact inner key _ given
              | some lower =>
                  rw [present] at found
                  obtain rfl := Option.some.inj found
                  exact ih key upper given (innerBelow key lower present) (inner key upper given)
      | null | bool _ | number _ | string _ | array _ =>
          rw [merge_of_not_object (Or.inl rfl)]
          exact distinctAbove

/-! ## A layer over itself -/

theorem Doc.merge_self {doc : Doc} (distinct : doc.KeysDistinct) : merge doc doc = doc := by
  induction doc using object_induction with
  | plain doc plain => exact merge_of_not_object (Or.inl plain)
  | object members ih =>
      obtain ⟨nodup, inner⟩ := keysDistinct_object_iff.1 distinct
      have keys : Members.keys (mergeMembers members members) = members.keys := by
        rw [keys_mergeMembers members nodup, List.filter_eq_nil_iff.2 (by simp), List.append_nil]
      rw [merge_object]
      refine congrArg object (Members.ext_of_nodup (nodup_keys_mergeMembers nodup nodup) keys ?_)
      intro key
      rw [get?_mergeMembers members nodup]
      cases found : Members.get? members key with
      | none => rfl
      | some value => exact congrArg some (ih key value found (inner key value found))

/-! ## Three layers -/

/-- The layers around the middle one have objects at the path, and the middle one has something
that is no object. -/
def Doc.Interrupts (base middle top : Doc) (path : List String) : Prop :=
  ∃ below value above, base.at? path = some (.object below) ∧ middle.at? path = some value ∧
    value.object? = none ∧ top.at? path = some (.object above)

theorem Doc.interrupts_cons_iff {base middle top : Doc} {key : String} {path : List String} :
    Interrupts base middle top (key :: path) ↔
      ∃ lower value upper, base.get? key = some lower ∧ middle.get? key = some value ∧
        top.get? key = some upper ∧ Interrupts lower value upper path := by
  constructor
  · intro interrupts
    rcases interrupts with ⟨below, plain, above, found, between, noObject, atop⟩
    obtain ⟨lower, inBase, found⟩ := Option.bind_eq_some_iff.1 found
    obtain ⟨value, inMiddle, between⟩ := Option.bind_eq_some_iff.1 between
    obtain ⟨upper, inTop, atop⟩ := Option.bind_eq_some_iff.1 atop
    exact ⟨lower, value, upper, inBase, inMiddle, inTop, below, plain, above, found, between,
      noObject, atop⟩
  · intro inside
    rcases inside with ⟨lower, value, upper, inBase, inMiddle, inTop, interrupts⟩
    rcases interrupts with ⟨below, plain, above, found, between, noObject, atop⟩
    exact ⟨below, plain, above, (at?_cons_of_get? inBase path).trans found,
      (at?_cons_of_get? inMiddle path).trans between, noObject,
      (at?_cons_of_get? inTop path).trans atop⟩

theorem Doc.not_interrupts_root {base top : Doc} {between : Members Doc} :
    ¬ Interrupts base (.object between) top [] := by
  intro interrupts
  rcases interrupts with ⟨below, plain, above, -, found, noObject, -⟩
  obtain rfl := Option.some.inj found
  cases noObject

section ThreeObjects

variable {below between above : Members Doc}

/-- New keys come in the same order, whichever two objects are merged first. -/
theorem Doc.keys_mergeMembers_mergeMembers (distinctBetween : between.keys.Nodup)
    (distinctAbove : above.keys.Nodup) :
    Members.keys (mergeMembers (mergeMembers below between) above) =
      Members.keys (mergeMembers below (mergeMembers between above)) := by
  have last : above.keys.filter (· ∉ below.keys ++ between.keys.filter (· ∉ below.keys)) =
      (above.keys.filter (· ∉ between.keys)).filter (· ∉ below.keys) := by
    rw [List.filter_filter]
    refine List.filter_congr fun key _ => ?_
    by_cases known : key ∈ below.keys
    · simp only [known, List.mem_append, true_or, not_true, decide_false, Bool.false_and]
    · simp only [known, List.mem_append, List.mem_filter, false_or, not_false_eq_true, decide_true,
        and_true, Bool.true_and]
  rw [keys_mergeMembers _ distinctAbove, keys_mergeMembers _ distinctBetween,
    keys_mergeMembers _ (nodup_keys_mergeMembers distinctBetween distinctAbove),
    keys_mergeMembers _ distinctAbove, last, List.filter_append, List.append_assoc]

/-- Under every key the three values may be grouped either way, if those that are all there may. -/
theorem Doc.get?_mergeMembers_mergeMembers (distinctBetween : between.keys.Nodup)
    (distinctAbove : above.keys.Nodup) {key : String}
    (inner : ∀ lower value upper, below.get? key = some lower →
      between.get? key = some value → above.get? key = some upper →
      merge (merge lower value) upper = merge lower (merge value upper)) :
    Members.get? (mergeMembers (mergeMembers below between) above) key =
      Members.get? (mergeMembers below (mergeMembers between above)) key := by
  rw [get?_mergeMembers _ distinctAbove, get?_mergeMembers _ distinctBetween,
    get?_mergeMembers _ (nodup_keys_mergeMembers distinctBetween distinctAbove),
    get?_mergeMembers _ distinctAbove]
  cases inAbove : Members.get? above key with
  | none => rfl
  | some upper =>
      cases inBetween : Members.get? between key with
      | none => rfl
      | some value =>
          cases inBelow : Members.get? below key with
          | none => rfl
          | some lower => exact congrArg some (inner lower value upper inBelow inBetween inAbove)

end ThreeObjects

/-- The upper two layers may be put together first. -/
theorem Doc.merge_merge {base middle top : Doc} (distinct : base.KeysDistinct)
    (distinctMiddle : middle.KeysDistinct) (distinctTop : top.KeysDistinct)
    (through : ∀ path, ¬ Interrupts base middle top path) :
    merge (merge base middle) top = merge base (merge middle top) := by
  induction top using object_induction generalizing base middle with
  | plain top plain =>
      rw [merge_of_not_object (Or.inr plain), merge_of_not_object (Or.inr plain),
        merge_of_not_object (Or.inr plain)]
  | object above ih =>
      cases inBase : base.object? with
      | none => rw [merge_of_not_object (Or.inl inBase), merge_of_not_object (Or.inl inBase)]
      | some below =>
          obtain rfl := object?_eq_some_iff.1 inBase
          cases inMiddle : middle.object? with
          | none => exact (through [] ⟨below, middle, above, rfl, rfl, inMiddle, rfl⟩).elim
          | some between =>
              obtain rfl := object?_eq_some_iff.1 inMiddle
              obtain ⟨nodup, innerBelow⟩ := keysDistinct_object_iff.1 distinct
              obtain ⟨nodupBetween, innerBetween⟩ := keysDistinct_object_iff.1 distinctMiddle
              obtain ⟨nodupAbove, innerAbove⟩ := keysDistinct_object_iff.1 distinctTop
              simp only [merge_object]
              refine congrArg object (Members.ext_of_nodup
                (nodup_keys_mergeMembers (nodup_keys_mergeMembers nodup nodupBetween) nodupAbove)
                (keys_mergeMembers_mergeMembers nodupBetween nodupAbove) fun key => ?_)
              refine get?_mergeMembers_mergeMembers nodupBetween nodupAbove ?_
              intro lower value upper found between atop
              exact ih key upper atop (innerBelow key lower found) (innerBetween key value between)
                (innerAbove key upper atop)
                fun path interrupts => through (key :: path)
                  (interrupts_cons_iff.2 ⟨lower, value, upper, found, between, atop, interrupts⟩)

/-- Where a `null` stands between two objects it matters which layers are put together first. -/
example (below above : Members Doc) :
    let base := Doc.object [("key", .object below)]
    let middle := Doc.object [("key", .null)]
    let top := Doc.object [("key", .object above)]
    (base.merge middle).merge top = .object [("key", .object above)] ∧
      base.merge (middle.merge top) =
        .object [("key", Doc.merge (.object below) (.object above))] :=
  ⟨rfl, rfl⟩

/-- A layer does not interrupt itself. -/
theorem Doc.not_interrupts_self (base overlay : Doc) (path : List String) :
    ¬ Interrupts base overlay overlay path := by
  intro interrupts
  rcases interrupts with ⟨below, value, above, -, found, plain, atop⟩
  obtain rfl := Option.some.inj (found.symm.trans atop)
  cases plain

/-- A layer that comes twice in a row counts once. -/
theorem Doc.merge_merge_self {base overlay : Doc} (distinct : base.KeysDistinct)
    (distinctAbove : overlay.KeysDistinct) :
    merge (merge base overlay) overlay = merge base overlay := by
  rw [merge_merge distinct distinctAbove distinctAbove (not_interrupts_self base overlay),
    merge_self distinctAbove]

/-! ## Files -/

namespace AppConfig

variable {files : Files} {config : AppConfig}

theorem keysDistinct_root_addSource {doc : Doc} (distinct : config.root.KeysDistinct)
    (distinctAbove : doc.KeysDistinct) : (config.addSource doc).root.KeysDistinct := by
  rw [addSource]
  split
  · exact distinct
  · exact distinct.merge distinctAbove

theorem addSource_addSource_self {doc : Doc} (distinct : config.root.KeysDistinct)
    (distinctAbove : doc.KeysDistinct) :
    (config.addSource doc).addSource doc = config.addSource doc := by
  unfold addSource
  split
  · rfl
  · exact congrArg mk (Doc.merge_merge_self distinct distinctAbove)

theorem loadOver_repeated (distinct : config.root.KeysDistinct) (before : List String)
    (path : String) (after : List String) :
    loadOver files config (before ++ path :: path :: after) =
      loadOver files config (before ++ path :: after) := by
  -- What is loaded before the file keeps the keys of the configuration distinct.
  induction before generalizing config with
  | nil =>
      simp only [List.nil_append, loadOver_cons]
      cases read : Doc.ofFile files path with
      | error failure => rfl
      | ok doc =>
          have twice := addSource_addSource_self distinct (Doc.keysDistinct_of_ofFile read)
          exact congrArg (loadOver files · after) twice
  | cons first before ih =>
      simp only [List.cons_append, loadOver_cons]
      cases read : Doc.ofFile files first with
      | error failure => rfl
      | ok doc => exact ih (keysDistinct_root_addSource distinct (Doc.keysDistinct_of_ofFile read))

/-- A file that comes twice in a row counts once. -/
theorem load_repeated (files : Files) (before : List String) (path : String)
    (after : List String) :
    load files (before ++ path :: path :: after) = load files (before ++ path :: after) :=
  have distinct : empty.root.KeysDistinct := ⟨List.nodup_nil, trivial⟩
  loadOver_repeated distinct before path after

/-- **Layers can be put together first**, unless the middle one interrupts objects of the layers
around it; so a layer that comes twice in a row counts once, in a list of files as well. -/
theorem layers_regrouped :
    (∀ base middle top : Doc, base.KeysDistinct → middle.KeysDistinct → top.KeysDistinct →
      (∀ path, ¬ Doc.Interrupts base middle top path) →
      (base.merge middle).merge top = base.merge (middle.merge top)) ∧
    (∀ base overlay : Doc, base.KeysDistinct → overlay.KeysDistinct →
      (base.merge overlay).merge overlay = base.merge overlay) ∧
    ∀ (files : Files) (before : List String) (path : String) (after : List String),
      load files (before ++ path :: path :: after) = load files (before ++ path :: after) :=
  ⟨fun _ _ _ distinct distinctMiddle distinctTop through =>
      Doc.merge_merge distinct distinctMiddle distinctTop through,
    fun _ _ distinct distinctAbove => Doc.merge_merge_self distinct distinctAbove,
    load_repeated⟩

end AppConfig

/-- A layer over `baseSample` and under `overlaySample`, with a `null` where only the upper one has
an object and a string where neither does. -/
def Doc.middleSample : Doc :=
  .object
    [("site", .object [("lang", .string "de"), ("title", .string "Home")]),
      ("theme", .null)]

theorem Doc.not_interrupts_samples (path : List String) :
    ¬ Interrupts baseSample middleSample overlaySample path := by
  intro interrupts
  rcases path with _ | ⟨key, rest⟩
  · exact not_interrupts_root interrupts
  obtain ⟨lower, value, upper, inBase, inMiddle, inTop, interrupts⟩ :=
    interrupts_cons_iff.1 interrupts
  -- Only the site is in all three, and no key of it is.
  by_cases site : "site" = key
  · subst site
    cases inBase
    cases inMiddle
    cases inTop
    rcases rest with _ | ⟨inner, rest⟩
    · exact not_interrupts_root interrupts
    obtain ⟨lower, value, upper, inBase, inMiddle, inTop, -⟩ := interrupts_cons_iff.1 interrupts
    grind [get?, object?, Members.get?]
  · grind [get?, object?, Members.get?, baseSample, middleSample]

theorem AppConfig.layers_regrouped_samples :
    (Doc.baseSample.KeysDistinct ∧ Doc.middleSample.KeysDistinct ∧
        Doc.overlaySample.KeysDistinct ∧
        ∀ path, ¬ Doc.Interrupts Doc.baseSample Doc.middleSample Doc.overlaySample path) ∧
      (Doc.baseSample.merge Doc.middleSample).merge Doc.overlaySample =
        Doc.baseSample.merge (Doc.middleSample.merge Doc.overlaySample) ∧
      Doc.baseSample.merge (Doc.middleSample.merge Doc.overlaySample) = .object
        [("site", .object
            [("title", .string "Home"), ("tags", .strings ["c"]), ("owner", .null),
              ("lang", .string "en")]),
          ("limit", .object [("max", .int 2)]),
          ("theme", .object [])] := by
  have distinct : Doc.baseSample.KeysDistinct := by
    simp [Doc.baseSample, Doc.KeysDistinct, Doc.ItemsDistinct, Doc.MembersDistinct, Members.keys,
      Doc.strings]
  have distinctMiddle : Doc.middleSample.KeysDistinct := by
    simp [Doc.middleSample, Doc.KeysDistinct, Doc.MembersDistinct, Members.keys]
  have distinctTop : Doc.overlaySample.KeysDistinct := by
    simp [Doc.overlaySample, Doc.KeysDistinct, Doc.ItemsDistinct, Doc.MembersDistinct,
      Members.keys, Doc.strings]
  have through := Doc.not_interrupts_samples
  exact ⟨⟨distinct, distinctMiddle, distinctTop, through⟩,
    layers_regrouped.1 _ _ _ distinct distinctMiddle distinctTop through, rfl⟩

end PortalConfig
