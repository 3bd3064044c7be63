import PortalConfig.Doc.Basic
import PortalConfig.Proofs.Keyed

/-!
# Documents

What documents are read through in proofs: their kinds, the values of objects whose keys are
distinct, and paths of keys. `Doc.at?` reads the value at such a path, and `Doc.CutsOff` says that
a path cannot be there because something that is no object stands on it.
-/

namespace PortalConfig

/-! ## Kinds -/

theorem Doc.string?_eq_some_iff {doc : Doc} {text : String} :
    doc.string? = some text ↔ doc = .string text := by
  cases doc <;> simp [string?]

/-- A list decodes as strings exactly when it is written from them. -/
theorem Doc.mapM_string?_eq_some_iff {items : List Doc} {texts : List String} :
    items.mapM string? = some texts ↔ items = texts.map .string := by
  induction items generalizing texts with
  | nil =>
      rw [List.mapM_nil]
      cases texts <;> simp
  | cons item rest ih =>
      simp only [List.mapM_cons, Option.bind_eq_bind, Option.bind_eq_some_iff,
        Doc.string?_eq_some_iff, Option.pure_def, Option.some.injEq, ih]
      constructor
      · intro holds
        rcases holds with ⟨text, rfl, more, rfl, rfl⟩
        rfl
      · intro eq
        obtain ⟨text, more, rfl, rfl, rfl⟩ := List.map_eq_cons_iff.1 eq.symm
        exact ⟨text, rfl, more, rfl, rfl⟩

theorem Doc.object?_eq_some_iff {doc : Doc} {members : Members Doc} :
    doc.object? = some members ↔ doc = .object members := by
  cases doc <;> simp [object?]

/-! ## Distinct keys -/

theorem Doc.keysDistinct_of_mem_items {items : List Doc} (distinct : ItemsDistinct items) :
    ∀ item ∈ items, KeysDistinct item := by
  induction items with
  | nil => exact fun _ mem => nomatch mem
  | cons head rest ih =>
      intro item mem
      rcases List.mem_cons.1 mem with rfl | later
      · exact distinct.1
      · exact ih distinct.2 item later

theorem Doc.keysDistinct_of_mem_members {members : Members Doc}
    (distinct : MembersDistinct members) :
    ∀ member ∈ members, KeysDistinct member.2 := by
  induction members with
  | nil => exact fun _ mem => nomatch mem
  | cons head rest ih =>
      intro member mem
      rcases List.mem_cons.1 mem with rfl | later
      · exact distinct.1
      · exact ih distinct.2 member later

theorem Doc.keysDistinct_object_iff {members : Members Doc} :
    (object members).KeysDistinct ↔
      members.keys.Nodup ∧ ∀ key value, members.get? key = some value → value.KeysDistinct := by
  constructor
  · intro distinct
    exact ⟨distinct.1, fun key value found =>
      keysDistinct_of_mem_members distinct.2 _ (Members.mem_of_get?_eq_some found)⟩
  · intro holds
    rcases holds with ⟨nodup, inner⟩
    have each : ∀ member ∈ members, member.2.KeysDistinct :=
      fun member mem => inner member.1 member.2 (Members.get?_of_mem nodup mem)
    refine ⟨nodup, ?_⟩
    clear nodup inner
    induction members with
    | nil => trivial
    | cons head rest ih =>
        exact ⟨each head List.mem_cons_self,
          ih fun member later => each member (List.mem_cons_of_mem _ later)⟩

/-- Induction along the members of objects; everything else is a base case. -/
theorem Doc.object_induction {motive : Doc → Prop}
    (plain : ∀ doc : Doc, doc.object? = none → motive doc)
    (object : ∀ members : Members Doc,
      (∀ key value, members.get? key = some value → motive value) → motive (.object members)) :
    ∀ doc, motive doc
  | .object members => object members fun key value found => by
      have mem : (key, value) ∈ members := Members.mem_of_get?_eq_some found
      have smaller : sizeOf value < 1 + sizeOf members := by
        have member := List.sizeOf_lt_of_mem mem
        rw [Prod.mk.sizeOf_spec] at member
        omega
      exact object_induction plain object value
  | .null => plain _ rfl
  | .bool _ => plain _ rfl
  | .number _ => plain _ rfl
  | .string _ => plain _ rfl
  | .array _ => plain _ rfl
termination_by doc => sizeOf doc

/-! ## Values at paths of keys -/

/-- The value at a path of keys, all of which are keys of objects. -/
def Doc.at? (doc : Doc) : List String → Option Doc
  | [] => some doc
  | key :: rest => (doc.get? key).bind (·.at? rest)

/-- A value that is no object stands on the path, before its end. -/
def Doc.CutsOff (doc : Doc) (path : List String) : Prop :=
  ∃ before after value, path = before ++ after ∧ after ≠ [] ∧
    doc.at? before = some value ∧ value.object? = none

/-- Whatever stands on the path, its end included, is an object. -/
def Doc.OpenAlong (doc : Doc) (path : List String) : Prop :=
  ∀ before value, before <+: path → doc.at? before = some value →
    ∃ members, value = .object members

/-- The keys of the object at the end of a path. -/
def Doc.keysAt (doc : Doc) (path : List String) : List String :=
  match doc.at? path with
  | some (.object members) => Members.keys members
  | _ => []

theorem Doc.at?_cons_of_get? {doc value : Doc} {key : String} (found : doc.get? key = some value)
    (rest : List String) : doc.at? (key :: rest) = value.at? rest := by
  rw [at?, found, Option.bind_some]

theorem Doc.at?_cons_eq_none {doc : Doc} {key : String} (missing : doc.get? key = none)
    (rest : List String) : doc.at? (key :: rest) = none := by
  rw [at?, missing, Option.bind_none]

theorem Doc.at?_singleton (doc : Doc) (key : String) : doc.at? [key] = doc.get? key :=
  Option.bind_fun_some (doc.get? key)

theorem Doc.cutsOff_cons_iff {doc : Doc} {key : String} {rest : List String} :
    doc.CutsOff (key :: rest) ↔
      doc.object? = none ∨ ∃ value, doc.get? key = some value ∧ value.CutsOff rest := by
  constructor
  · rintro ⟨before, after, value, eq, nonempty, found, plain⟩
    cases before with
    | nil =>
        obtain rfl := Option.some.inj found
        exact Or.inl plain
    | cons first before =>
        obtain ⟨rfl, tail⟩ := List.cons.inj eq
        obtain ⟨child, member, found⟩ := Option.bind_eq_some_iff.1 found
        exact Or.inr ⟨child, member, before, after, value, tail, nonempty, found, plain⟩
  · rintro (plain | ⟨child, member, before, after, value, rfl, nonempty, found, plain⟩)
    · exact ⟨[], key :: rest, doc, rfl, List.cons_ne_nil _ _, rfl, plain⟩
    · exact ⟨key :: before, after, value, rfl, nonempty,
        (at?_cons_of_get? member before).trans found, plain⟩

theorem Doc.at?_append (doc : Doc) (path rest : List String) :
    doc.at? (path ++ rest) = (doc.at? path).bind (·.at? rest) := by
  induction path generalizing doc with
  | nil => rfl
  | cons key path ih =>
      rw [List.cons_append, at?, at?, Option.bind_assoc]
      exact congrArg (doc.get? key).bind (funext fun child => ih child)

theorem Doc.OpenAlong.of_isPrefix {doc : Doc} {before path : List String}
    (passable : doc.OpenAlong path) (start : before <+: path) : doc.OpenAlong before :=
  fun _ value within found => passable _ value (within.trans start) found

theorem Doc.openAlong_cons_iff {doc : Doc} {key : String} {rest : List String} :
    doc.OpenAlong (key :: rest) ↔
      (∃ members, doc = .object members) ∧
        ∀ value, doc.get? key = some value → value.OpenAlong rest := by
  constructor
  · intro passable
    refine ⟨passable [] doc List.nil_prefix rfl, fun child member before value start found => ?_⟩
    exact passable (key :: before) value (List.cons_prefix_cons.2 ⟨rfl, start⟩)
      ((at?_cons_of_get? member before).trans found)
  · rintro ⟨object, inner⟩ before value start found
    cases before with
    | nil =>
        cases found
        exact object
    | cons first before =>
        obtain ⟨rfl, startInside⟩ := List.cons_prefix_cons.1 start
        obtain ⟨child, member, inside⟩ := Option.bind_eq_some_iff.1 found
        exact inner child member before value startInside inside

theorem Doc.openAlong_empty (path : List String) : (Doc.object []).OpenAlong path := by
  intro before value _ found
  cases before with
  | nil => exact ⟨[], (Option.some.inj found).symm⟩
  | cons key before => cases found

theorem Doc.KeysDistinct.of_at? {doc value : Doc} {path : List String}
    (distinct : doc.KeysDistinct) (found : doc.at? path = some value) : value.KeysDistinct := by
  induction path generalizing doc with
  | nil =>
      cases found
      exact distinct
  | cons key rest ih =>
      obtain ⟨child, member, inside⟩ := Option.bind_eq_some_iff.1 found
      obtain ⟨members, object, entry⟩ := Option.bind_eq_some_iff.1 member
      obtain rfl := object?_eq_some_iff.1 object
      have distinctChild : child.KeysDistinct :=
        keysDistinct_of_mem_members distinct.2 _ (Members.mem_of_get?_eq_some entry)
      exact ih distinctChild inside

theorem Doc.KeysDistinct.of_get? {doc value : Doc} {key : String} (distinct : doc.KeysDistinct)
    (found : doc.get? key = some value) : value.KeysDistinct :=
  distinct.of_at? ((at?_singleton doc key).trans found)

theorem Doc.KeysDistinct.nodup_keysAt {doc : Doc} (distinct : doc.KeysDistinct)
    (path : List String) : (doc.keysAt path).Nodup := by
  rw [keysAt]
  split
  · next members found => exact (distinct.of_at? found).1
  · exact List.nodup_nil

/-- An open path is cut off neither on its way nor one step further. -/
theorem Doc.OpenAlong.not_cutsOff {doc : Doc} {path : List String} (passable : doc.OpenAlong path) :
    ¬ doc.CutsOff path := by
  rintro ⟨before, after, value, rfl, -, found, plain⟩
  obtain ⟨members, rfl⟩ := passable before value (List.prefix_append _ _) found
  cases plain

theorem Doc.OpenAlong.not_cutsOff_concat {doc : Doc} {path : List String}
    (passable : doc.OpenAlong path) (key : String) : ¬ doc.CutsOff (path ++ [key]) := by
  rintro ⟨before, after, value, eq, nonempty, found, plain⟩
  have within : before <+: path := by
    rcases List.prefix_concat_iff.1 ⟨after, eq.symm⟩ with rfl | within
    · exact (nonempty (List.self_eq_append_right.1 eq)).elim
    · exact within
  obtain ⟨members, rfl⟩ := passable before value within found
  cases plain

end PortalConfig
