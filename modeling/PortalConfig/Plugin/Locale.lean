import PortalConfig.Plugin.Import

/-!
# Locale resources

A locale resource is an export of a plugin, the reference whose messages it gives, and files with
these messages by locale.
-/

namespace PortalConfig

/-- A file with the messages of one locale. -/
structure LocaleFile where
  locale : String
  path : String
deriving DecidableEq

/-- A locale resource as declared. -/
structure LocaleResource where
  module : Option String
  importName : Option String
  reference : Option String
  files : Option (List LocaleFile)
deriving DecidableEq

/-- A registered locale resource. -/
structure LocaleEntry where
  scope : String
  module : String
  importName : String
  reference : Option String
  files : List LocaleFile
deriving DecidableEq

namespace LocaleFile

def decode : Doc → Option LocaleFile := Doc.record do
  let locale ← Record.required "locale" Doc.string?
  let path ← Record.required "path" Doc.string?
  return { locale, path }

def encode (file : LocaleFile) : Doc :=
  .object [("locale", .string file.locale), ("path", .string file.path)]

end LocaleFile

namespace LocaleResource

def decode : Doc → Option LocaleResource := Doc.record do
  let module ← Record.optional "module" Doc.string?
  let importName ← Record.optional "importName" Doc.string?
  let reference ← Record.optional "ref" Doc.string?
  let files ← Record.optional "jsonTranslations" (Doc.listOf LocaleFile.decode)
  return { module, importName, reference, files }

def encode (resource : LocaleResource) : Doc :=
  .object [("module", .ofOption .string resource.module),
    ("importName", .ofOption .string resource.importName),
    ("ref", .ofOption .string resource.reference),
    ("jsonTranslations",
      .ofOption (fun files => .array (files.map LocaleFile.encode)) resource.files)]

/-- Fills in the defaults. -/
def resolve (scope : String) (resource : LocaleResource) : LocaleEntry where
  scope
  module := resource.module.getD defaultModule
  importName := resource.importName.getD defaultImportName
  reference := resource.reference
  files := resource.files.getD []

end LocaleResource

namespace LocaleEntry

def encode (resource : LocaleEntry) : Doc :=
  .object [("scope", .string resource.scope), ("module", .string resource.module),
    ("importName", .string resource.importName),
    ("ref", .ofOption .string resource.reference),
    ("jsonTranslations", .array (resource.files.map LocaleFile.encode))]

end LocaleEntry

end PortalConfig
