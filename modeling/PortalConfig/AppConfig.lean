import PortalConfig.Catalog.Config
import PortalConfig.Doc.Merge
import PortalConfig.Doc.Path
import PortalConfig.Plugin.Registry
import PortalConfig.Source.Load

/-!
# The configuration of a portal

The configuration is one document, made by laying the documents of its sources over each other in
their order. The plugins and the columns are sections of it. Documents that are `null` say nothing.
-/

namespace PortalConfig

/-- The configuration of a portal. -/
structure AppConfig where
  root : Doc

namespace AppConfig

/-- Where the plugins stand. -/
def frontendPath : String := "dynamicPlugins.frontend"

/-- Where the columns stand. -/
def columnsPath : String := "catalog.table.columns"

/-- The configuration without any source. -/
def empty : AppConfig := ⟨.object []⟩

/-- The configuration that a document alone makes. -/
def ofDoc : Doc → AppConfig
  | .null => empty
  | root => ⟨root⟩

/-- Lays a document over the configuration. -/
def merge (config : AppConfig) (overlay : Doc) : AppConfig := ⟨config.root.merge overlay⟩

/-- Lays the document of a source over the configuration, unless it says nothing. -/
def addSource (config : AppConfig) (doc : Doc) : AppConfig :=
  if doc.isNull then config else config.merge doc

/-- Loads the files at some paths, in order, over a configuration. -/
def loadOver (files : Files) (config : AppConfig) (paths : List String)
    (parser : DocumentParser := DocumentFormat.parse) : Except LoadError AppConfig :=
  paths.foldlM (fun config path => (Doc.ofFile files path parser).map config.addSource) config

/-- Loads the files at some paths, in order. -/
def load (files : Files) (paths : List String)
    (parser : DocumentParser := DocumentFormat.parse) : Except LoadError AppConfig :=
  loadOver files empty paths parser

/-- The origin of a text that comes from no file. -/
def inlineOrigin : String := "<inline>"

/-- The configuration that a text makes. -/
def ofText (content : String) (format : DocumentFormat)
    (parser : DocumentParser := DocumentFormat.parse) : Except LoadError AppConfig :=
  (Doc.ofText inlineOrigin content format parser).map ofDoc

/-- The document of the plugins. -/
def frontendDoc? (config : AppConfig) : Option Doc := config.root.lookup? frontendPath

/-- The plugins. -/
def plugins (config : AppConfig) : PluginSection := ⟨config.frontendDoc?.map Frontend.ofDoc⟩

/-- The configuration of the columns. -/
def columns? (config : AppConfig) : Option ColumnConfig :=
  (config.root.lookup? columnsPath).bind ColumnConfig.ofDoc?

end AppConfig

namespace Entity

/-- The entity in the file at a path. -/
def ofFile (files : Files) (path : String) : Except LoadError Entity :=
  match Doc.ofFile files path with
  | .ok (.object members) => .ok ⟨.object members⟩
  | .ok _ => .error (.notEntity path)
  | .error error => .error error

end Entity

end PortalConfig
