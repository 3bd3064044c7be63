import PortalConfig.Doc.Record

/-!
# Imports from plugin modules

Most extension points name an export of a module of their plugin. Either name may be left out of
a declaration and is then filled in. API factories, analytics extensions and scaffolder fields
declare nothing else; a sign-in page does not either, but one without an export is dropped. The
scope of a resolved entry is always that of the plugin that declares it.
-/

namespace PortalConfig

/-- The module of an entry that names none. -/
def defaultModule : String := "PluginRoot"

/-- The export of an entry that names none. -/
def defaultImportName : String := "default"

/-- A module and an export, each perhaps left out. -/
structure ModuleImport where
  module : Option String
  importName : Option String
deriving DecidableEq

/-- An export of a module of a plugin. -/
structure ImportEntry where
  scope : String
  module : String
  importName : String
deriving DecidableEq

/-- A sign-in page as declared. -/
structure SignInPage where
  module : Option String
  importName : Option String
deriving DecidableEq

namespace ModuleImport

def decode : Doc → Option ModuleImport := Doc.record do
  let module ← Record.optional "module" Doc.string?
  let importName ← Record.optional "importName" Doc.string?
  return { module, importName }

def encode (entry : ModuleImport) : Doc :=
  .object [("module", .ofOption .string entry.module),
    ("importName", .ofOption .string entry.importName)]

/-- Fills in the defaults. -/
def resolve (scope : String) (entry : ModuleImport) : ImportEntry where
  scope
  module := entry.module.getD defaultModule
  importName := entry.importName.getD defaultImportName

end ModuleImport

namespace ImportEntry

def encode (entry : ImportEntry) : Doc :=
  .object [("scope", .string entry.scope), ("module", .string entry.module),
    ("importName", .string entry.importName)]

end ImportEntry

namespace SignInPage

def decode : Doc → Option SignInPage := Doc.record do
  let module ← Record.optional "module" Doc.string?
  let importName ← Record.optional "importName" Doc.string?
  return { module, importName }

def encode (page : SignInPage) : Doc :=
  .object [("module", .ofOption .string page.module),
    ("importName", .ofOption .string page.importName)]

/-- Fills in the module. A page whose export is missing or empty cannot be registered. -/
def resolve? (scope : String) (page : SignInPage) : Option ImportEntry :=
  (page.importName.filter (· != "")).map fun importName =>
    { scope, module := page.module.getD defaultModule, importName }

end SignInPage

end PortalConfig
