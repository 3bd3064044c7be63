import PortalConfig.Catalog.Composer
import PortalConfig.Proofs.Document
import PortalConfig.Proofs.Path.Quoting
import PortalConfig.Visibility.Predicate

/-!
# Fields by accessor and by path

An accessor goes down objects along fixed keys, a field path is read from its text and may also
enter lists. Along keys that are no numerals both are `Doc.at?` (`Doc.lookup?_of_words`), and the
quoted bracket of an annotation passes any key on as it is (`Entity.lookup?_annotationPath`), so the
accessors, the conditions and the columns that use them read the same strings as paths do
(`Entity.readsAlike`).
-/

namespace PortalConfig

/-! ## Keys that are no numerals -/

/-- A key addresses members of objects only, unless it is the position of an item in a list. -/
theorem Doc.step?_key_eq_get? {doc : Doc} {key : String}
    (word : ∀ items, doc = .array items → Path.position? key.toList = none) :
    doc.step? (.key key) = doc.get? key := by
  cases doc with
  | array items =>
      change (Path.position? key.toList).bind (fun n => items[n]?) = none
      rw [word items rfl, Option.bind_none]
  | object members => rfl
  | null | bool _ | number _ | string _ => rfl

theorem Doc.follow?_words {keys : List String}
    (words : ∀ key ∈ keys, Path.position? key.toList = none) (doc : Doc) :
    doc.follow? (keys.map .key) = doc.at? keys := by
  induction keys generalizing doc with
  | nil => rfl
  | cons key rest ih =>
      obtain ⟨word, wordsRest⟩ := List.forall_mem_cons.1 words
      have step : doc.step? (.key key) = doc.get? key := step?_key_eq_get? fun _ _ => word
      change (doc.step? (.key key)).bind (fun child => child.follow? (rest.map .key)) = _
      rw [step, at?]
      exact Option.bind_congr fun child _ => ih wordsRest child

theorem Doc.lookup?_of_words {path : String} {keys : List String}
    (parsed : Path.parse path = keys.map .key) (nonempty : keys ≠ [])
    (words : ∀ key ∈ keys, Path.position? key.toList = none) (doc : Doc) :
    doc.lookup? path = (doc.at? keys).filter (!·.isNull) := by
  have steps : Path.parse path ≠ [] := by
    rw [parsed]
    exact mt List.map_eq_nil_iff.1 nonempty
  rw [lookup?_of_parse steps, parsed, follow?_words words]

/-- Passing over `null` loses no string. -/
theorem Doc.bind_string?_filter (found : Option Doc) :
    (found.filter (!·.isNull)).bind string? = found.bind string? := by
  cases found with
  | none => rfl
  | some value => cases value <;> rfl

/-! ## Entities -/

/-- The string at a field path, if there is one. -/
def Entity.text? (entity : Entity) (path : String) : Option String :=
  (entity.lookup? path).bind Doc.string?

/-- The path of an annotation, with its key in quotes. -/
def Entity.annotationPath (key : String) : String := "metadata.annotations" ++ "['" ++ key ++ "']"

/-- The columns of the platform that show the text at a path as it stands. -/
def Column.textFields : List (Column × String) :=
  [(name, "metadata.title"), (specType, "spec.type"), (lifecycle, "spec.lifecycle"),
    (description, "metadata.description"), (namespaceName, "metadata.namespace")]

section Reading

variable {entity : Entity} {path key text : String}

theorem Entity.text?_eq_some_iff :
    entity.text? path = some text ↔ entity.lookup? path = some (.string text) := by
  simp only [text?, Option.bind_eq_some_iff, Doc.string?_eq_some_iff, exists_eq_right]

theorem Entity.text?_of_words {keys : List String} (parsed : Path.parse path = keys.map .key)
    (nonempty : keys ≠ []) (words : ∀ key ∈ keys, Path.position? key.toList = none) :
    entity.text? path = (entity.doc.at? keys).bind Doc.string? := by
  rw [text?, lookup?, Doc.lookup?_of_words parsed nonempty words, Doc.bind_string?_filter]

theorem Entity.kind?_eq_text? (entity : Entity) : entity.kind? = entity.text? "kind" := by
  have read : entity.text? "kind" = (entity.doc.at? ["kind"]).bind Doc.string? :=
    text?_of_words rfl nofun (by decide)
  rw [read, Doc.at?_singleton]
  rfl

/-- A string one level down, by keys. -/
theorem Doc.bind_at?_pair (doc : Doc) (outer inner : String) :
    (doc.at? [outer, inner]).bind string? =
      (doc.get? outer).bind fun child => (child.get? inner).bind string? := by
  rw [at?, Option.bind_assoc]
  exact Option.bind_congr fun child _ => by rw [at?_singleton]

theorem Entity.specType?_eq_text? (entity : Entity) :
    entity.specType? = entity.text? "spec.type" := by
  have read : entity.text? "spec.type" = (entity.doc.at? ["spec", "type"]).bind Doc.string? :=
    text?_of_words rfl nofun (by decide)
  rw [read, Doc.bind_at?_pair]
  rfl

theorem Entity.metadataString?_eq_text? (entity : Entity) (path key : String)
    (parsed : Path.parse path = [.key "metadata", .key key])
    (word : Path.position? key.toList = none) :
    entity.metadataString? key = entity.text? path := by
  have words : ∀ step ∈ ["metadata", key], Path.position? step.toList = none :=
    List.forall_mem_cons.2 ⟨by decide, List.forall_mem_singleton.2 word⟩
  have read : entity.text? path = (entity.doc.at? ["metadata", key]).bind Doc.string? :=
    text?_of_words parsed nofun words
  rw [read, Doc.bind_at?_pair]
  rfl

theorem Entity.title_eq_text? (entity : Entity) :
    entity.metadataString? "title" = entity.text? "metadata.title" :=
  entity.metadataString?_eq_text? _ _ rfl (by decide)

theorem Entity.name?_eq_text? (entity : Entity) : entity.name? = entity.text? "metadata.name" :=
  entity.metadataString?_eq_text? _ _ rfl (by decide)

theorem Entity.description?_eq_text? (entity : Entity) :
    entity.description? = entity.text? "metadata.description" :=
  entity.metadataString?_eq_text? _ _ rfl (by decide)

theorem Entity.namespaceName_eq_text? (entity : Entity) :
    entity.namespaceName = (entity.text? "metadata.namespace").getD defaultNamespace := by
  rw [namespaceName,
    entity.metadataString?_eq_text? "metadata.namespace" "namespace" rfl (by decide)]

/-! ## Annotations -/

theorem Entity.annotations?_eq_at? (entity : Entity) :
    entity.annotations? = (entity.doc.at? ["metadata", "annotations"]).bind Doc.object? := by
  rw [annotations?, Doc.at?, Option.bind_assoc]
  exact Option.bind_congr fun metadata _ => by rw [Doc.at?_singleton]

theorem Doc.at?_annotation (doc : Doc) (key : String) :
    doc.at? ["metadata", "annotations", key] =
      (doc.at? ["metadata", "annotations"]).bind (·.get? key) := by
  refine (doc.at?_append ["metadata", "annotations"] [key]).trans ?_
  exact Option.bind_congr fun annotations _ => at?_singleton annotations key

theorem Entity.annotation?_eq_at? (entity : Entity) (key : String) :
    entity.annotation? key =
      (entity.doc.at? ["metadata", "annotations", key]).bind Doc.string? := by
  rw [annotation?, annotations?_eq_at?, Doc.at?_annotation, Option.bind_assoc, Option.bind_assoc]
  exact Option.bind_congr fun annotations _ => (Option.bind_assoc ..).symm

theorem Entity.isAnnotated_eq_at? (entity : Entity) (key : String) :
    entity.isAnnotated key = (entity.doc.at? ["metadata", "annotations", key]).isSome := by
  have found : entity.doc.at? ["metadata", "annotations", key] =
      entity.annotations?.bind (Members.get? · key) := by
    rw [annotations?_eq_at?, Doc.at?_annotation, Option.bind_assoc]
    rfl
  rw [found, isAnnotated]
  cases entity.annotations? <;> rfl

theorem Entity.lookup?_annotationPath
    (notArray : ∀ items, entity.doc.at? ["metadata", "annotations"] ≠ some (.array items))
    (unclosed : ¬ ['\'', ']'] <:+: key.toList) :
    entity.lookup? (annotationPath key) =
      (entity.doc.at? ["metadata", "annotations", key]).filter (!·.isNull) := by
  have closed : Path.Closed "metadata.annotations".toList := .of_not_mem (by decide)
  have held : Path.Held (some '\'') key.toList := ⟨Or.inl rfl, unclosed⟩
  have steps :
      Path.parse (annotationPath key) = ["metadata", "annotations"].map .key ++ [.key key] :=
    closed.parse_heldInQuotes held
  rw [lookup?, Doc.lookup?_of_parse_concat _ steps, Doc.follow?_words (by decide),
    Doc.at?_annotation]
  refine congrArg (Option.filter _) (Option.bind_congr fun annotations reached => ?_)
  refine Doc.step?_key_eq_get? fun items isArray => ?_
  exact (notArray items (isArray ▸ reached)).elim

/-! ## Columns -/

theorem CustomColumn.render_toColumn {column : CustomColumn}
    (found : entity.text? column.field = some text) :
    column.toColumn.render (.ofEntity entity) = text := by
  have value : entity.doc.lookup? column.field = some (.string text) :=
    Entity.text?_eq_some_iff.1 found
  change ((entity.doc.lookup? column.field).bind Doc.display).getD _ = text
  rw [value]
  rfl

theorem CustomColumn.render_toColumn_of_missing {column : CustomColumn}
    (missing : entity.lookup? column.field = none) :
    column.toColumn.render (.ofEntity entity) = column.defaultValue.getD "" := by
  have value : entity.doc.lookup? column.field = none := missing
  change ((entity.doc.lookup? column.field).bind Doc.display).getD _ = _
  rw [value]
  rfl

/-- Title and name are read by their paths. -/
theorem Column.render_name (entity : Entity) :
    name.render (.ofEntity entity) =
      ((entity.text? "metadata.title").or (entity.text? "metadata.name")).getD "" := by
  rw [← entity.title_eq_text?, ← entity.name?_eq_text?]
  rfl

theorem Column.render_of_mem_textFields {field : Column × String} (mem : field ∈ textFields)
    (found : entity.text? field.2 = some text) : field.1.render (.ofEntity entity) = text := by
  simp only [textFields, List.mem_cons, List.not_mem_nil, or_false] at mem
  rcases mem with rfl | rfl | rfl | rfl | rfl
  · rw [render_name, found]
    rfl
  · change entity.specType?.getD "" = text
    rw [Entity.specType?_eq_text?, found]
    rfl
  · have value : entity.doc.lookup? "spec.lifecycle" = some (.string text) :=
      Entity.text?_eq_some_iff.1 found
    change ((entity.doc.lookup? "spec.lifecycle").bind Doc.display).getD "" = text
    rw [value]
    rfl
  · change entity.description?.getD "" = text
    rw [Entity.description?_eq_text?, found]
    rfl
  · change entity.namespaceName = text
    rw [Entity.namespaceName_eq_text?, found]
    rfl

end Reading

/-! ## Agreement -/

/-- Accessors and field paths read the same strings of an entity, and so does what is built on
them: the columns of the platform, those of the user's own, and conditions on annotations. -/
structure Entity.ReadsAlike (entity : Entity) : Prop where
  kind : entity.kind? = entity.text? "kind"
  specType : entity.specType? = entity.text? "spec.type"
  name : entity.name? = entity.text? "metadata.name"
  description : entity.description? = entity.text? "metadata.description"
  namespaceName : entity.namespaceName = (entity.text? "metadata.namespace").getD defaultNamespace
  /-- A key that does not hold the end of a quoted bracket is read as it stands. -/
  annotation (key : String) : ¬ ['\'', ']'] <:+: key.toList →
    entity.annotation? key = entity.text? (annotationPath key)
  /-- Only a `null` is there for the one and not for the other. -/
  isAnnotated (key : String) : ¬ ['\'', ']'] <:+: key.toList →
    (entity.isAnnotated key = true ↔
      (entity.lookup? (annotationPath key)).isSome = true ∨
        entity.doc.at? ["metadata", "annotations", key] = some .null)
  /-- Where a string stands, a column of the platform and one of the user's own show it. -/
  columns (field : Column × String) (custom : CustomColumn) (text : String) :
    field ∈ Column.textFields → custom.field = field.2 →
    entity.text? custom.field = some text →
    field.1.render (.ofEntity entity) = text ∧ custom.toColumn.render (.ofEntity entity) = text
  /-- The name is shown where there is no title. -/
  shownName : Column.name.render (.ofEntity entity) =
    ((entity.text? "metadata.title").or (entity.text? "metadata.name")).getD ""
  /-- The column shows the annotations that the condition finds, and its default for those that
  the condition does not find. -/
  conditions (key : String) (custom : CustomColumn) (capabilities : Option Capabilities) :
    ¬ ['\'', ']'] <:+: key.toList → custom.field = annotationPath key →
    (∀ text, entity.annotation? key = some text →
      custom.toColumn.render (.ofEntity entity) = text ∧
        Atom.ofCondition (.annotated key) entity capabilities = true) ∧
    (Atom.ofCondition (.annotated key) entity capabilities = false →
      custom.toColumn.render (.ofEntity entity) = custom.defaultValue.getD "")
  /-- The creation date is the one that its path leads to. -/
  createdAt : Column.createdAt? (.ofEntity entity) =
    (entity.text? (annotationPath Column.createdAtAnnotation)).bind Timestamp.read?

/-- **Accessors and field paths read the same strings** of every entity whose annotations are not a
list: where a path leads to no string the accessor has none, and the other way round. -/
theorem Entity.readsAlike {entity : Entity}
    (notArray : ∀ items, entity.doc.at? ["metadata", "annotations"] ≠ some (.array items)) :
    entity.ReadsAlike := by
  have annotated (key : String) (unclosed : ¬ ['\'', ']'] <:+: key.toList) :
      entity.annotation? key = entity.text? (annotationPath key) := by
    rw [annotation?_eq_at?, text?, lookup?_annotationPath notArray unclosed,
      Doc.bind_string?_filter]
  constructor
  case kind => exact entity.kind?_eq_text?
  case specType => exact entity.specType?_eq_text?
  case name => exact entity.name?_eq_text?
  case description => exact entity.description?_eq_text?
  case namespaceName => exact entity.namespaceName_eq_text?
  case annotation => exact annotated
  case isAnnotated =>
    intro key unclosed
    rw [isAnnotated_eq_at?, lookup?_annotationPath notArray unclosed]
    cases entity.doc.at? ["metadata", "annotations", key] with
    | none => simp
    | some value => cases value <;> simp [Option.filter, Doc.isNull]
  case columns =>
    intro field custom text mem own found
    exact ⟨Column.render_of_mem_textFields mem (own ▸ found), custom.render_toColumn found⟩
  case shownName => exact Column.render_name entity
  case conditions =>
    intro key custom capabilities unclosed own
    refine ⟨fun text found => ⟨custom.render_toColumn ?_, ?_⟩, fun missing => ?_⟩
    · rw [own, ← annotated key unclosed, found]
    · change entity.isAnnotated key = true
      rw [annotation?_eq_at?] at found
      obtain ⟨value, present, -⟩ := Option.bind_eq_some_iff.1 found
      rw [isAnnotated_eq_at?, present]
      rfl
    · have absent : entity.isAnnotated key = false := missing
      rw [isAnnotated_eq_at?, Option.isSome_eq_false_iff, Option.isNone_iff_eq_none] at absent
      refine custom.render_toColumn_of_missing ?_
      rw [own, lookup?_annotationPath notArray unclosed, absent]
      rfl
  case createdAt =>
    have plain : ¬ ['\'', ']'] <:+: Column.createdAtAnnotation.toList := by decide
    rw [← annotated _ plain]
    rfl

/-- A kind of the wrong type, an annotation whose key is full of marks, and one that is `null`. -/
def Entity.annotatedSample : Entity where
  doc := .object
    [("kind", .int 7),
      ("metadata", .object
        [("annotations", .object [("a.b['c", .string "gold"), ("gone", .null)])])]

theorem Entity.readsAlike_annotatedSample :
    (∀ items, annotatedSample.doc.at? ["metadata", "annotations"] ≠ some (.array items)) ∧
      annotatedSample.text? "kind" = none ∧
      ¬ ['\'', ']'] <:+: "a.b['c".toList ∧
      annotatedSample.text? (annotationPath "a.b['c") = some "gold" ∧
      ¬ ['\'', ']'] <:+: "gone".toList ∧
      ((annotatedSample.lookup? (annotationPath "gone")).isSome = true ∨
        annotatedSample.doc.at? ["metadata", "annotations", "gone"] = some .null) := by
  have notArray : ∀ items,
      annotatedSample.doc.at? ["metadata", "annotations"] ≠ some (.array items) := nofun
  have reads : annotatedSample.ReadsAlike := readsAlike notArray
  have marks : ¬ ['\'', ']'] <:+: "a.b['c".toList := by decide
  have word : ¬ ['\'', ']'] <:+: "gone".toList := by decide
  refine ⟨notArray, ?_, marks, ?_, word, (reads.isAnnotated "gone" word).1 rfl⟩
  · exact reads.kind.symm
  · exact (reads.annotation "a.b['c" marks).symm

/-- In a list, a path finds annotations by their positions. -/
example :
    let entity : Entity :=
      ⟨.object [("metadata", .object [("annotations", .strings ["first"])])]⟩
    entity.annotation? "0" = none ∧
      entity.text? (Entity.annotationPath "0") = some "first" := ⟨rfl, rfl⟩

end PortalConfig
