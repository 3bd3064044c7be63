import PortalConfig.Plugin.Registry
import PortalConfig.Proofs.Readback

/-!
# Registered entries as declarations

An entry is registered under the names under which it was declared, with its defaults filled in and
the scope beside them. So a registered entry, written out, is a declaration again: the one that
leaves nothing to fill in (`declaration`). `Registration.kinds` are the kinds of entries that have
defaults; under its own scope, the written form of an entry of any of them is registered as this
very entry (`Registration.registered_again`).
-/

namespace PortalConfig

attribute [local simp] Record.required_bind Record.optional_bind Record.lenient_bind
  Record.withDefault_bind Record.pure_run Record.next Record.rest Members.get? Members.get?_append
  Members.get?_optionalMember Record.decodeOptional_given Record.decodeOptional_string
  Record.decodeOptional_nullable Record.decodeOptional_bool Record.decodeOptional_int64
  Record.decodeOptional_object

/-! ## Declarations that leave nothing to fill in -/

def ImportEntry.declaration (entry : ImportEntry) : ModuleImport where
  module := some entry.module
  importName := some entry.importName

def ImportEntry.signInPage (entry : ImportEntry) : SignInPage where
  module := some entry.module
  importName := some entry.importName

def AppIconEntry.declaration (icon : AppIconEntry) : AppIcon where
  name := icon.name
  module := some icon.module
  importName := some icon.importName

def BindingTargetEntry.declaration (target : BindingTargetEntry) : BindingTarget where
  module := some target.module
  importName := some target.importName
  name := some target.name

def TechdocsAddonEntry.declaration (addon : TechdocsAddonEntry) : TechdocsAddon where
  module := some addon.module
  importName := some addon.importName
  config := addon.config

def ThemeEntry.declaration (theme : ThemeEntry) : Theme where
  id := theme.id
  title := theme.title
  variant := theme.variant
  icon := theme.icon
  module := some theme.module
  importName := some theme.importName

def LocaleEntry.declaration (resource : LocaleEntry) : LocaleResource where
  module := some resource.module
  importName := some resource.importName
  reference := resource.reference
  files := some resource.files

def EntityTabEntry.declaration (tab : EntityTabEntry) : EntityTab where
  mountPoint := tab.mountPoint
  path := tab.path
  title := tab.title
  priority := tab.priority

def MenuItemEntry.declaration : MenuItemEntry → RouteMenuItem
  | .text item => .text item
  | .component item => .component ⟨some item.module, item.importName, item.config⟩

def RouteEntry.declaration (route : RouteEntry) : Route where
  path := route.path
  module := some route.module
  importName := some route.importName
  menuItem := route.menuItem.map MenuItemEntry.declaration
  config := route.config

/-! ## What is read of written entries -/

theorem ImportEntry.decode_encode (entry : ImportEntry) :
    ModuleImport.decode entry.encode = some entry.declaration := rfl

theorem ImportEntry.decode_encode_signInPage (entry : ImportEntry) :
    SignInPage.decode entry.encode = some entry.signInPage := rfl

theorem AppIconEntry.decode_encode (icon : AppIconEntry) :
    AppIcon.decode icon.encode = some icon.declaration := rfl

theorem BindingTargetEntry.decode_encode (target : BindingTargetEntry) :
    BindingTarget.decode target.encode = some target.declaration := rfl

theorem TechdocsAddonEntry.decode_encode (addon : TechdocsAddonEntry) :
    TechdocsAddon.decode addon.encode = some addon.declaration := by
  obtain ⟨scope, module, importName, _ | config⟩ := addon
  · rfl
  · change some (TechdocsAddon.mk _ _ (ComponentConfig.decode config.encode)) = _
    rw [ComponentConfig.decode_encode]
    rfl

theorem ThemeEntry.decode_encode (theme : ThemeEntry) :
    Theme.decode theme.encode = some theme.declaration := by
  refine Doc.record_object ?_
  simp [-StateT.run_bind, -bind_pure_comp, Doc.string?, ThemeVariant.decode_encode, declaration]

theorem LocaleEntry.decode_encode (resource : LocaleEntry) :
    LocaleResource.decode resource.encode = some resource.declaration := by
  have files : Record.decodeOptional (Doc.listOf LocaleFile.decode)
      (some (.array (resource.files.map LocaleFile.encode))) = some (some resource.files) :=
    congrArg (Option.map some) (Doc.listOf_map LocaleFile.decode_encode resource.files)
  refine Doc.record_object ?_
  simp [-StateT.run_bind, -bind_pure_comp, files, declaration]

theorem EntityTabEntry.decode_encode (tab : EntityTabEntry) :
    EntityTab.decode tab.encode = some tab.declaration := by
  refine Doc.record_object ?_
  simp [-StateT.run_bind, -bind_pure_comp, Record.optionalAlso_bind, Doc.string?, declaration]

/-- A component has no text, so it is not taken for a text item. -/
theorem RouteMenuText.decode_component (item : MenuComponentEntry) :
    RouteMenuText.decode item.encode = none := by
  obtain ⟨module, importName, _ | config⟩ := item <;> rfl

theorem MenuComponentEntry.decode_encode (item : MenuComponentEntry) :
    RouteMenuComponent.decode item.encode =
      some ⟨some item.module, item.importName, item.config⟩ := by
  have config : Record.decodeOptional ComponentConfig.decode
      (item.config.map ComponentConfig.encode) = some item.config :=
    Record.decodeOptional_map _ _ ComponentConfig.decode_encode nofun item.config
  refine Doc.record_object ?_
  simp [-StateT.run_bind, -bind_pure_comp, Doc.string?, config]

theorem MenuItemEntry.decode_encode (item : MenuItemEntry) :
    RouteMenuItem.decode item.encode = some item.declaration := by
  cases item with
  | text item => simp [RouteMenuItem.decode, encode, RouteMenuText.decode_encode, declaration]
  | component item =>
      simp [RouteMenuItem.decode, encode, RouteMenuText.decode_component,
        MenuComponentEntry.decode_encode, declaration]

theorem RouteEntry.decode_encode (route : RouteEntry) :
    Route.decode route.encode = some route.declaration := by
  have menuItem : (route.menuItem.map MenuItemEntry.encode).bind RouteMenuItem.decode =
      route.menuItem.map MenuItemEntry.declaration := by
    cases route.menuItem with
    | none => rfl
    | some item => exact item.decode_encode
  have config : (route.config.map ComponentConfig.encode).bind ComponentConfig.decode =
      route.config := by
    cases route.config with
    | none => rfl
    | some config => exact config.decode_encode
  refine Doc.record_object ?_
  simp [-StateT.run_bind, -bind_pure_comp, Doc.string?, menuItem, config, declaration]

/-! ## The kinds of entries -/

/-- A kind of entry: how its declarations are read, what is registered of one under a scope, and
how what is registered is written. -/
structure Registration where
  Declared : Type
  Registered : Type
  decode : Doc → Option Declared
  register? : String → Declared → Option Registered
  encode : Registered → Doc

namespace Registration

/-- A kind whose entries are registered whatever they leave out. -/
def defaulted {Declared Registered : Type} (decode : Doc → Option Declared)
    (resolve : String → Declared → Registered) (encode : Registered → Doc) : Registration where
  Declared
  Registered
  decode
  register? scope declared := some (resolve scope declared)
  encode

/-- Sign-in pages, which are not registered without an export. -/
def signInPage : Registration where
  Declared := SignInPage
  Registered := ImportEntry
  decode := SignInPage.decode
  register? scope page := page.resolve? scope
  encode := ImportEntry.encode

/-- The kinds of entries that have defaults. -/
def kinds : List Registration :=
  [defaulted ModuleImport.decode ModuleImport.resolve ImportEntry.encode,
    defaulted Route.decode Route.resolve RouteEntry.encode,
    defaulted AppIcon.decode AppIcon.resolve AppIconEntry.encode,
    defaulted BindingTarget.decode BindingTarget.resolve BindingTargetEntry.encode,
    defaulted TechdocsAddon.decode TechdocsAddon.resolve TechdocsAddonEntry.encode,
    defaulted Theme.decode Theme.resolve ThemeEntry.encode,
    defaulted LocaleResource.decode LocaleResource.resolve LocaleEntry.encode,
    defaulted EntityTab.decode EntityTab.resolve EntityTabEntry.encode,
    signInPage]

/-- What has been registered under a scope is, written out, a declaration of itself there. -/
def Settled (kind : Registration) : Prop :=
  ∀ scope declared registered, kind.register? scope declared = some registered →
    ∃ again, kind.decode (kind.encode registered) = some again ∧
      kind.register? scope again = some registered

end Registration

theorem Registration.settled_defaulted {Declared Registered : Type}
    {decode : Doc → Option Declared} {resolve : String → Declared → Registered}
    {encode : Registered → Doc} (declaration : Registered → Declared)
    (decode_encode : ∀ registered, decode (encode registered) = some (declaration registered))
    (refilled : ∀ scope declared,
      resolve scope (declaration (resolve scope declared)) = resolve scope declared) :
    (defaulted decode resolve encode).Settled := by
  intro scope declared registered registers
  obtain rfl : resolve scope declared = registered := Option.some.inj registers
  exact ⟨declaration (resolve scope declared), decode_encode _,
    congrArg some (refilled scope declared)⟩

theorem SignInPage.resolve?_signInPage {scope : String} {page : SignInPage} {entry : ImportEntry}
    (registers : page.resolve? scope = some entry) :
    entry.signInPage.resolve? scope = some entry := by
  obtain ⟨importName, kept, rfl⟩ := Option.map_eq_some_iff.1 registers
  have nonempty : (importName != "") = true := (Option.filter_eq_some_iff.1 kept).2
  simp [resolve?, ImportEntry.signInPage, Option.filter, nonempty]

theorem Registration.settled_signInPage : signInPage.Settled :=
  fun _ _ registered registers =>
    ⟨registered.signInPage, registered.decode_encode_signInPage,
      SignInPage.resolve?_signInPage registers⟩

theorem RouteMenuItem.resolve_declaration (item : RouteMenuItem) :
    item.resolve.declaration.resolve = item.resolve := by
  cases item <;> rfl

theorem Route.resolve_declaration (scope : String) (route : Route) :
    (route.resolve scope).declaration.resolve scope = route.resolve scope := by
  obtain ⟨path, module, importName, _ | item, config⟩ := route
  · rfl
  · have menuItem := item.resolve_declaration
    simp [resolve, RouteEntry.declaration, menuItem]

theorem Registration.settled_of_mem {kind : Registration} (mem : kind ∈ kinds) : kind.Settled := by
  simp only [kinds, List.mem_cons, List.not_mem_nil, or_false] at mem
  rcases mem with rfl | rfl | rfl | rfl | rfl | rfl | rfl | rfl | rfl
  · exact settled_defaulted _ ImportEntry.decode_encode fun _ _ => rfl
  · exact settled_defaulted _ RouteEntry.decode_encode Route.resolve_declaration
  · exact settled_defaulted _ AppIconEntry.decode_encode fun _ _ => rfl
  · exact settled_defaulted _ BindingTargetEntry.decode_encode fun _ _ => rfl
  · exact settled_defaulted _ TechdocsAddonEntry.decode_encode fun _ _ => rfl
  · exact settled_defaulted _ ThemeEntry.decode_encode fun _ _ => rfl
  · exact settled_defaulted _ LocaleEntry.decode_encode fun _ _ => rfl
  · exact settled_defaulted _ EntityTabEntry.decode_encode fun _ _ => rfl
  · exact settled_signInPage

/-- **Registered entries are fixed points.** Whatever the defaults made of a declaration, writing
the entry out, reading it as a declaration of its kind and filling in the defaults of its scope
gives the entry again. -/
theorem Registration.registered_again {kind : Registration} (mem : kind ∈ kinds) {scope : String}
    {declared : kind.Declared} {registered : kind.Registered}
    (registers : kind.register? scope declared = some registered) :
    ∃ again, kind.decode (kind.encode registered) = some again ∧
      kind.register? scope again = some registered :=
  settled_of_mem mem scope declared registered registers

/-- A route whose menu item is a component that names no module. -/
def Route.componentSample : Route where
  path := "/docs"
  module := none
  importName := some "DocsPage"
  menuItem := some (.component ⟨none, "DocsItem", some ⟨none⟩⟩)
  config := some ⟨some [("wide", .bool true)]⟩

theorem Registration.registered_again_samples :
    defaulted Route.decode Route.resolve RouteEntry.encode ∈ kinds ∧
      (∃ again, Route.decode (Route.componentSample.resolve "acme.docs").encode = some again ∧
        some (again.resolve "acme.docs") = some (Route.componentSample.resolve "acme.docs")) ∧
      signInPage ∈ kinds ∧
      (⟨none, some "SignIn"⟩ : SignInPage).resolve? "acme" = some ⟨"acme", "PluginRoot", "SignIn"⟩ ∧
      ∃ again, SignInPage.decode (ImportEntry.encode ⟨"acme", "PluginRoot", "SignIn"⟩) =
          some again ∧
        again.resolve? "acme" = some ⟨"acme", "PluginRoot", "SignIn"⟩ := by
  have routes : defaulted Route.decode Route.resolve RouteEntry.encode ∈ kinds := by
    simp [kinds]
  have pages : signInPage ∈ kinds := by
    simp [kinds]
  have registers : (⟨none, some "SignIn"⟩ : SignInPage).resolve? "acme" =
      some ⟨"acme", "PluginRoot", "SignIn"⟩ := rfl
  refine ⟨routes, registered_again routes rfl, pages, registers, ?_⟩
  exact @registered_again signInPage pages "acme" ⟨none, some "SignIn"⟩ _ registers

end PortalConfig
