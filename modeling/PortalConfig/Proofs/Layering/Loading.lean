import PortalConfig.AppConfig
import PortalConfig.Proofs.Layering.Override
import PortalConfig.Proofs.Source.DistinctKeys
import PortalConfig.Proofs.Source.Extension

/-!
# Loading files in order

Loading goes through the files in order, and it ends in one of two ways. Either some file fails
while all before it give documents, and loading fails with the error of that file
(`AppConfig.loadOver_eq_error_iff`); or every file gives a document, and the configuration is these
documents laid over each other, without those that are `null` (`AppConfig.loadOver_eq_ok_iff`).
`Files.Gives` and `Files.Fails` say what a single file does, for any way to parse texts: its format
is the one that its extension says, and a parser that refuses its text is quoted. What follows for
files that say nothing and for a file alone is in `AppConfig.load_outcome`.
-/

namespace PortalConfig

/-! ## One file -/

/-- The file at the path can be read and gives the document. -/
inductive Files.Gives (files : Files) (parser : DocumentParser) (path : String) : Doc → Prop
  /-- There is nothing but white space in the file. -/
  | blank {content : String} : files path = .ok content → Text.isBlank content.toList →
      Gives files parser path .null
  /-- The text of the file is parsed in the format that its extension says. -/
  | parsed {content : String} {format : DocumentFormat} {doc : Doc} : files path = .ok content →
      ¬ Text.isBlank content.toList → format.IsSaidBy path → parser format content = .ok doc →
      Gives files parser path doc

/-- The file at the path gives no document. The error names the path and says why, in the words of
the parser where that is what refuses the text. -/
inductive Files.Fails (files : Files) (parser : DocumentParser) (path : String) : LoadError → Prop
  | unreadable {failure : ReadFailure} : files path = .error failure →
      Fails files parser path (.unreadable path failure)
  | malformed {content reason : String} {format : DocumentFormat} : files path = .ok content →
      ¬ Text.isBlank content.toList → format.IsSaidBy path →
      parser format content = .error reason → Fails files parser path (.malformed ⟨path, reason⟩)

section OneFile

variable {files : Files} {parser : DocumentParser} {path : String}

/-- A file gives a document or fails. -/
theorem Files.gives_or_fails (files : Files) (parser : DocumentParser) (path : String) :
    (∃ doc, files.Gives parser path doc) ∨ ∃ error, files.Fails parser path error := by
  cases found : files path with
  | error failure => exact Or.inr ⟨_, .unreadable found⟩
  | ok content =>
      by_cases blank : Text.isBlank content.toList
      · exact Or.inl ⟨_, .blank found blank⟩
      · have said := DocumentFormat.isSaidBy_ofPath path
        cases parsed : parser (.ofPath path) content with
        | ok doc => exact Or.inl ⟨_, .parsed found blank said parsed⟩
        | error reason => exact Or.inr ⟨_, .malformed found blank said parsed⟩

theorem Files.Gives.ofFile_eq {doc : Doc} (gives : files.Gives parser path doc) :
    Doc.ofFile files path parser = .ok doc := by
  cases gives with
  | blank found blank =>
      simp only [Doc.ofFile, found, Doc.ofText, DocumentFormat.read, if_pos blank]
  | parsed found blank said parsed =>
      obtain rfl := DocumentFormat.ofPath_eq_iff.2 said
      simp only [Doc.ofFile, found, Doc.ofText, DocumentFormat.read, if_neg blank, parsed]

theorem Files.Fails.ofFile_eq {error : LoadError} (fails : files.Fails parser path error) :
    Doc.ofFile files path parser = .error error := by
  cases fails with
  | unreadable found => simp only [Doc.ofFile, found]
  | malformed found blank said refused =>
      obtain rfl := DocumentFormat.ofPath_eq_iff.2 said
      simp only [Doc.ofFile, found, Doc.ofText, DocumentFormat.read, if_neg blank, refused]

end OneFile

/-! ## Sources that say nothing -/

namespace AppConfig

/-- Documents are laid over a configuration one after the other, those that are `null` are not. -/
theorem root_foldl_addSource (config : AppConfig) (docs : List Doc) :
    (docs.foldl addSource config).root =
      Doc.mergeAll config.root (docs.filter fun doc => !doc.isNull) := by
  induction docs generalizing config with
  | nil => rfl
  | cons doc rest ih =>
      rw [List.foldl_cons, ih, addSource]
      cases silent : doc.isNull with
      | true => rw [if_pos rfl, List.filter_cons_of_neg (by simp [silent])]
      | false =>
          rw [if_neg Bool.false_ne_true, List.filter_cons_of_pos (by simp [silent])]
          rfl

end AppConfig

/-- Over the object without members a document stands as it is. -/
theorem Doc.merge_empty {doc : Doc} (distinct : doc.KeysDistinct) :
    merge (.object []) doc = doc := by
  cases doc with
  | object members =>
      have nodup := (keysDistinct_object_iff.1 distinct).1
      have keys : Members.keys (mergeMembers [] members) = Members.keys members :=
        (keys_mergeMembers [] nodup).trans (List.filter_eq_self.2 fun _ _ => rfl)
      rw [merge]
      refine congrArg object (Members.ext_of_nodup (keys ▸ nodup) keys fun key => ?_)
      rw [get?_mergeMembers [] nodup]
      cases Members.get? members key <;> rfl
  | null | bool _ | number _ | string _ | array _ => exact merge_of_not_object (Or.inr rfl)

theorem AppConfig.addSource_empty {doc : Doc} (distinct : doc.KeysDistinct) :
    empty.addSource doc = ofDoc doc := by
  cases doc with
  | null => rfl
  | object _ | bool _ | number _ | string _ | array _ =>
      exact congrArg mk (Doc.merge_empty distinct)

/-! ## All files -/

/-- Some file fails with the error, and all files before it give documents. -/
def Files.FailsFirst (files : Files) (parser : DocumentParser) (paths : List String)
    (error : LoadError) : Prop :=
  ∃ before path after, paths = before ++ path :: after ∧
    (∀ earlier ∈ before, ∃ doc, files.Gives parser earlier doc) ∧ files.Fails parser path error

theorem Files.FailsFirst.cons {files : Files} {parser : DocumentParser} {path : String}
    {paths : List String} {doc : Doc} {error : LoadError} (gives : files.Gives parser path doc)
    (later : files.FailsFirst parser paths error) :
    files.FailsFirst parser (path :: paths) error := by
  obtain ⟨before, failing, after, rfl, earlier, fails⟩ := later
  exact ⟨path :: before, failing, after, rfl, List.forall_mem_cons.2 ⟨⟨doc, gives⟩, earlier⟩, fails⟩

/-- Either some file is the first to fail, or all files give documents. -/
theorem Files.failsFirst_or_forall₂ (files : Files) (parser : DocumentParser)
    (paths : List String) :
    (∃ error, files.FailsFirst parser paths error) ∨
      ∃ docs, List.Forall₂ (files.Gives parser) paths docs := by
  induction paths with
  | nil => exact Or.inr ⟨[], .nil⟩
  | cons path rest ih =>
      obtain ⟨doc, gives⟩ | ⟨error, fails⟩ := files.gives_or_fails parser path
      · obtain ⟨error, later⟩ | ⟨docs, later⟩ := ih
        · exact Or.inl ⟨error, later.cons gives⟩
        · exact Or.inr ⟨doc :: docs, .cons gives later⟩
      · exact Or.inl ⟨error, [], path, rest, rfl, List.forall_mem_nil _, fails⟩

namespace AppConfig

theorem loadOver_cons (files : Files) (parser : DocumentParser) (config : AppConfig)
    (path : String) (rest : List String) :
    loadOver files config (path :: rest) parser =
      (Doc.ofFile files path parser).bind fun doc =>
        loadOver files (config.addSource doc) rest parser := by
  rw [loadOver, List.foldlM_cons]
  cases Doc.ofFile files path parser <;> rfl

section AllFiles

variable {files : Files} {parser : DocumentParser}

theorem loadOver_cons_of_gives {config : AppConfig} {path : String} {doc : Doc}
    (gives : files.Gives parser path doc) (rest : List String) :
    loadOver files config (path :: rest) parser =
      loadOver files (config.addSource doc) rest parser := by
  rw [loadOver_cons, gives.ofFile_eq]
  rfl

theorem loadOver_cons_of_fails {config : AppConfig} {path : String} {error : LoadError}
    (fails : files.Fails parser path error) (rest : List String) :
    loadOver files config (path :: rest) parser = .error error := by
  rw [loadOver_cons, fails.ofFile_eq]
  rfl

/-- A file that gives `null` may as well not be there. -/
theorem loadOver_without {config : AppConfig} {path : String}
    (silent : files.Gives parser path .null) (before after : List String) :
    loadOver files config (before ++ path :: after) parser =
      loadOver files config (before ++ after) parser := by
  induction before generalizing config with
  | nil => exact loadOver_cons_of_gives silent after
  | cons first before ih =>
      simp only [List.cons_append, loadOver_cons]
      cases Doc.ofFile files first parser with
      | error failure => rfl
      | ok doc => exact ih

theorem loadOver_of_failsFirst {paths : List String} {error : LoadError}
    (failsFirst : files.FailsFirst parser paths error) (config : AppConfig) :
    loadOver files config paths parser = .error error := by
  obtain ⟨before, path, after, rfl, earlier, fails⟩ := failsFirst
  induction before generalizing config with
  | nil => exact loadOver_cons_of_fails fails after
  | cons first before ih =>
      obtain ⟨⟨doc, gives⟩, earlier⟩ := List.forall_mem_cons.1 earlier
      exact (loadOver_cons_of_gives gives _).trans (ih (config.addSource doc) earlier)

theorem loadOver_of_forall₂ {paths : List String} {docs : List Doc}
    (all : List.Forall₂ (files.Gives parser) paths docs) (config : AppConfig) :
    loadOver files config paths parser = .ok (docs.foldl addSource config) := by
  induction all generalizing config with
  | nil => rfl
  | cons gives _ ih => exact (loadOver_cons_of_gives gives _).trans (ih _)

/-- Loading fails with an error exactly if it is that of the first file that fails. -/
theorem loadOver_eq_error_iff {config : AppConfig} {paths : List String} {error : LoadError} :
    loadOver files config paths parser = .error error ↔ files.FailsFirst parser paths error := by
  refine ⟨fun failed => ?_, fun failsFirst => loadOver_of_failsFirst failsFirst config⟩
  obtain ⟨first, failsFirst⟩ | ⟨docs, all⟩ := files.failsFirst_or_forall₂ parser paths
  · cases failed.symm.trans (loadOver_of_failsFirst failsFirst config)
    exact failsFirst
  · cases failed.symm.trans (loadOver_of_forall₂ all config)

/-- Loading gives a configuration exactly if all files give documents that make it. -/
theorem loadOver_eq_ok_iff {config last : AppConfig} {paths : List String} :
    loadOver files config paths parser = .ok last ↔
      ∃ docs, List.Forall₂ (files.Gives parser) paths docs ∧
        last.root = Doc.mergeAll config.root (docs.filter fun doc => !doc.isNull) := by
  constructor
  · intro loaded
    obtain ⟨error, failsFirst⟩ | ⟨docs, all⟩ := files.failsFirst_or_forall₂ parser paths
    · cases loaded.symm.trans (loadOver_of_failsFirst failsFirst config)
    · cases loaded.symm.trans (loadOver_of_forall₂ all config)
      exact ⟨docs, all, root_foldl_addSource config docs⟩
  · intro made
    obtain ⟨docs, all, root⟩ := made
    rw [loadOver_of_forall₂ all config]
    exact congrArg Except.ok (congrArg mk ((root_foldl_addSource config docs).trans root.symm))

end AllFiles

end AppConfig

/-! ## A file alone -/

/-- The error for a text that comes from somewhere else. -/
def LoadError.withOrigin (origin : String) : LoadError → LoadError
  | malformed failure => malformed { failure with origin }
  | error => error

theorem Doc.ofText_eq_mapError (origin other content : String) (format : DocumentFormat)
    (parser : DocumentParser) :
    ofText other content format parser =
      (ofText origin content format parser).mapError (·.withOrigin other) := by
  unfold ofText
  cases format.read content parser <;> rfl

namespace AppConfig

/-- A file alone makes the configuration that its text makes, in the format that its extension
says. -/
theorem load_singleton {files : Files} {parser : DocumentParser}
    (repeatsNoKey : parser.RepeatsNoKey) {path content : String} {format : DocumentFormat}
    (readable : files path = .ok content) (said : format.IsSaidBy path) :
    load files [path] parser =
      (ofText content format parser).mapError (·.withOrigin path) := by
  obtain rfl := DocumentFormat.ofPath_eq_iff.2 said
  have file : Doc.ofFile files path parser = Doc.ofText path content (.ofPath path) parser := by
    rw [Doc.ofFile, readable]
  rw [load, loadOver_cons, file, Doc.ofText_eq_mapError inlineOrigin path, ofText]
  cases read : Doc.ofText inlineOrigin content (.ofPath path) parser with
  | error error => rfl
  | ok doc => exact congrArg Except.ok (addSource_empty (repeatsNoKey.keysDistinct_of_ofText read))

/-- **Loading fails on the first bad file or not at all**, whatever the files are and however texts
are parsed: it gives the error of the first file that fails, or else the documents of all files laid
over each other. So a file that gives `null` may as well not be there, and a file alone makes the
configuration that its text makes in the format that its extension says. -/
theorem load_outcome (files : Files) (parser : DocumentParser) :
    (∀ paths error,
      load files paths parser = .error error ↔ files.FailsFirst parser paths error) ∧
    (∀ paths config, load files paths parser = .ok config ↔
      ∃ docs, List.Forall₂ (files.Gives parser) paths docs ∧
        config.root = Doc.mergeAll (.object []) (docs.filter fun doc => !doc.isNull)) ∧
    (∀ before path after, files.Gives parser path .null →
      load files (before ++ path :: after) parser = load files (before ++ after) parser) ∧
    (∀ path format, DocumentFormat.ofPath path = format ↔ format.IsSaidBy path) ∧
    (parser.RepeatsNoKey → ∀ path content format, files path = .ok content →
      format.IsSaidBy path →
      load files [path] parser = (ofText content format parser).mapError (·.withOrigin path)) :=
  ⟨fun _ _ => loadOver_eq_error_iff, fun _ _ => loadOver_eq_ok_iff,
    fun before _ after silent => loadOver_without silent before after,
    fun _ _ => DocumentFormat.ofPath_eq_iff,
    fun repeatsNoKey _ _ _ readable said => load_singleton repeatsNoKey readable said⟩

/-- A file with a setting, a blank one, one that is no document, and no others. -/
def filesSample : Files := fun path =>
  if path = "base.yaml" then .ok "title: Portal\n"
  else if path = "local.json" then .ok " \n"
  else if path = "broken.JSON" then .ok "title: Portal\n"
  else .error .notFound

theorem load_outcome_samples :
    DocumentFormat.parse.RepeatsNoKey ∧
      filesSample.Gives DocumentFormat.parse "local.json" .null ∧
      filesSample "base.yaml" = .ok "title: Portal\n" ∧
      DocumentFormat.json.IsSaidBy "broken.JSON" ∧ DocumentFormat.yaml.IsSaidBy "base.yaml" ∧
      load filesSample ["local.json", "missing.yaml", "base.yaml"] =
        .error (.unreadable "missing.yaml" .notFound) ∧
      load filesSample ["local.json", "broken.JSON", "missing.yaml"] =
        .error (.malformed ⟨"broken.JSON", "not a JSON document"⟩) ∧
      load filesSample ["base.yaml", "local.json"] = load filesSample ["base.yaml"] ∧
      load filesSample ["base.yaml"] =
        (ofText "title: Portal\n" .yaml).mapError (·.withOrigin "base.yaml") := by
  obtain ⟨failed, -, silent, said, alone⟩ := load_outcome filesSample DocumentFormat.parse
  have blank : filesSample.Gives DocumentFormat.parse "local.json" .null := .blank rfl rfl
  have base : filesSample "base.yaml" = .ok "title: Portal\n" := rfl
  have yaml : DocumentFormat.yaml.IsSaidBy "base.yaml" := (said _ _).1 (by decide)
  have json : DocumentFormat.json.IsSaidBy "broken.JSON" := (said _ _).1 (by decide)
  have missing : filesSample.Fails DocumentFormat.parse "missing.yaml"
      (.unreadable "missing.yaml" .notFound) := .unreadable rfl
  have noJson : Json.read? "title: Portal\n" = none :=
    Option.isNone_iff_eq_none.1 (by decide +kernel)
  have refused : DocumentFormat.parse .json "title: Portal\n" = .error "not a JSON document" := by
    rw [DocumentFormat.parse, DocumentFormat.parse?, noJson]
    rfl
  have broken : filesSample.Fails DocumentFormat.parse "broken.JSON"
      (.malformed ⟨"broken.JSON", "not a JSON document"⟩) := .malformed rfl (by decide) json refused
  have before : ∀ earlier ∈ ["local.json"],
      ∃ doc, filesSample.Gives DocumentFormat.parse earlier doc :=
    List.forall_mem_singleton.2 ⟨.null, blank⟩
  have distinct := DocumentFormat.repeatsNoKey_parse
  refine ⟨distinct, blank, base, json, yaml, ?_, ?_, silent ["base.yaml"] "local.json" [] blank,
    alone distinct "base.yaml" _ _ base yaml⟩
  · exact (failed _ _).2 ⟨["local.json"], "missing.yaml", ["base.yaml"], rfl, before, missing⟩
  · exact (failed _ _).2 ⟨["local.json"], "broken.JSON", ["missing.yaml"], rfl, before, broken⟩

end AppConfig

end PortalConfig
