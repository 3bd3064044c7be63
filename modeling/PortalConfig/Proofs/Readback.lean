import PortalConfig.Catalog.Config
import PortalConfig.Plugin.MenuOverride
import PortalConfig.Plugin.MountPoint
import PortalConfig.Plugin.Fragment
import PortalConfig.Proofs.Record

/-!
# Declarations read back

What has been read of a declaration can be written and is read as the same again, although a
declaration may be written in more ways than one: as a list, under another name, with a `null` or
without the field. An entry is written as an object under the names of its fields, and
`Doc.record_object` runs a reader on such an object field by field. `EntryForm.forms` are the kinds
of entries; `EntryForm.read_back` is about all of them, mount points and the configuration of the
columns included.
-/

namespace PortalConfig

variable {α : Type}

/-! ## Reading what has been written -/

/-- Fields that are all there are read off an object. -/
theorem Doc.record_object {reader : RecordReader α} {members : Members Doc} {value : α}
    (ran : StateT.run reader (.named members) = some (value, .named members)) :
    Doc.record reader (.object members) = some value :=
  Record.run_eq_some_iff.2 ⟨.named members, ran, rfl⟩

theorem Doc.string?_string (text : String) : (string text).string? = some text := rfl

theorem Doc.int64?_ofInt64 (n : Int64) : (ofInt64 n).int64? = some n := by
  have range : Int64.minValue.toInt ≤ n.toInt ∧ n.toInt ≤ Int64.maxValue.toInt :=
    ⟨n.minValue_le_toInt, n.toInt_le⟩
  change (if _ then some (Int64.ofInt n.toInt) else none) = some n
  rw [if_pos range, Int64.ofInt_toInt]

theorem Doc.uint32?_toNat (n : UInt32) : (int n.toNat).uint32? = some n := by
  have range : 0 ≤ (n.toNat : Int) ∧ (n.toNat : Int) < UInt32.size :=
    ⟨Int.natCast_nonneg _, Int.ofNat_lt.2 n.toNat_lt_size⟩
  rw [uint32?, if_pos range, Int.toNat_natCast, UInt32.ofNat_toNat]

theorem Doc.listOf_map {decode : Doc → Option α} {encode : α → Doc}
    (inverse : ∀ value, decode (encode value) = some value) (values : List α) :
    listOf decode (.array (values.map encode)) = some values := by
  change (values.map encode).mapM decode = some values
  induction values with
  | nil => rfl
  | cons value rest ih =>
      rw [List.map_cons, List.mapM_cons, inverse, ih]
      rfl

theorem Doc.mapOf_map {decode : Doc → Option α} {encode : α → Doc}
    (inverse : ∀ value, decode (encode value) = some value) (members : Members α) :
    mapOf decode (.object (members.map fun (key, value) => (key, encode value))) =
      some members := by
  change (members.map fun member => (member.1, encode member.2)).mapM _ = some members
  induction members with
  | nil => rfl
  | cons member rest ih =>
      rw [List.map_cons, List.mapM_cons, ih]
      dsimp only
      rw [inverse]
      rfl

/-! ### Members that may be left out -/

theorem Members.get?_append (members others : Members Doc) (key : String) :
    Members.get? (members ++ others) key = (members.get? key).or (others.get? key) := by
  induction members with
  | nil => exact Option.none_or.symm
  | cons head rest ih =>
      rw [List.cons_append, get?, get?, ih]
      split <;> rfl

theorem Members.get?_optionalMember (key : String) (encode : α → Doc) (value : Option α)
    (other : String) :
    Members.get? (optionalMember key encode value) other =
      if key = other then value.map encode else none := by
  cases value with
  | none => exact (ite_self none).symm
  | some value => rfl

/-- A field that is written when there is a value is read as that value or as none. -/
theorem Record.decodeOptional_map (decode : Doc → Option α) (encode : α → Doc)
    (inverse : ∀ value, decode (encode value) = some value)
    (given : ∀ value, encode value ≠ .null) (value : Option α) :
    decodeOptional decode (value.map encode) = some value := by
  cases value with
  | none => rfl
  | some value =>
      have step : decodeOptional decode (some (encode value)) = (decode (encode value)).map some := by
        rw [decodeOptional]
        exact given value
      rw [Option.map_some, step, inverse]
      rfl

/-- So is a field that is written as `null` when there is none. -/
theorem Record.decodeOptional_ofOption (decode : Doc → Option α) (encode : α → Doc)
    (inverse : ∀ value, decode (encode value) = some value)
    (given : ∀ value, encode value ≠ .null) (value : Option α) :
    decodeOptional decode (some (.ofOption encode value)) = some value := by
  cases value with
  | none => rfl
  | some value => exact decodeOptional_map decode encode inverse given (some value)

/-- So does one that is dropped when it does not decode, where `null` does not. -/
theorem Doc.bind_ofOption (decode : Doc → Option α) (encode : α → Doc)
    (inverse : ∀ value, decode (encode value) = some value) (absent : decode .null = none)
    (value : Option α) : decode (.ofOption encode value) = value := by
  cases value with
  | none => exact absent
  | some value => exact inverse value

theorem Record.decodeOptional_given (text : String) :
    decodeOptional Doc.string? (some (.string text)) = some (some text) := rfl

theorem Record.decodeOptional_string (value : Option String) :
    decodeOptional Doc.string? (value.map .string) = some value :=
  decodeOptional_map Doc.string? .string Doc.string?_string nofun value

theorem Record.decodeOptional_nullable (value : Option String) :
    decodeOptional Doc.string? (some (.ofOption .string value)) = some value :=
  decodeOptional_ofOption Doc.string? .string Doc.string?_string nofun value

theorem Record.decodeOptional_bool (value : Option Bool) :
    decodeOptional Doc.bool? (value.map .bool) = some value :=
  decodeOptional_map Doc.bool? .bool (fun _ => rfl) nofun value

theorem Record.decodeOptional_object (value : Option (Members Doc)) :
    decodeOptional Doc.object? (value.map .object) = some value :=
  decodeOptional_map Doc.object? .object (fun _ => rfl) nofun value

theorem Record.decodeOptional_int64 (value : Option Int64) :
    decodeOptional Doc.int64? (value.map .ofInt64) = some value :=
  decodeOptional_map Doc.int64? .ofInt64 Doc.int64?_ofInt64 nofun value

theorem Record.decodeOptional_nullable_int64 (value : Option Int64) :
    decodeOptional Doc.int64? (some (.ofOption .ofInt64 value)) = some value :=
  decodeOptional_ofOption Doc.int64? .ofInt64 Doc.int64?_ofInt64 nofun value

attribute [local simp] Record.required_bind Record.optional_bind Record.lenient_bind
  Record.withDefault_bind Record.pure_run Record.next Record.rest Members.get? Members.get?_append
  Members.get?_optionalMember Record.decodeOptional_given Record.decodeOptional_string
  Record.decodeOptional_nullable Record.decodeOptional_bool Record.decodeOptional_int64
  Record.decodeOptional_nullable_int64 Record.decodeOptional_object Doc.string?

/-! ## Entries -/

theorem ModuleImport.decode_encode (entry : ModuleImport) : decode entry.encode = some entry := by
  refine Doc.record_object ?_
  simp [-StateT.run_bind, -bind_pure_comp]

theorem SignInPage.decode_encode (page : SignInPage) : decode page.encode = some page := by
  refine Doc.record_object ?_
  simp [-StateT.run_bind, -bind_pure_comp]

theorem AppIcon.decode_encode (icon : AppIcon) : decode icon.encode = some icon := by
  refine Doc.record_object ?_
  simp [-StateT.run_bind, -bind_pure_comp]

theorem BindingTarget.decode_encode (target : BindingTarget) :
    decode target.encode = some target := by
  refine Doc.record_object ?_
  simp [-StateT.run_bind, -bind_pure_comp]

theorem RouteBinding.decode_encode (binding : RouteBinding) :
    decode binding.encode = some binding := by
  have routes := Doc.mapOf_map Doc.string?_string binding.bindMap
  refine Doc.record_object ?_
  simp [-StateT.run_bind, -bind_pure_comp, routes]

theorem ProviderSetting.decode_encode (setting : ProviderSetting) :
    decode setting.encode = some setting := rfl

theorem MenuOverride.decode_encode (item : MenuOverride) : decode item.encode = some item := by
  refine Doc.record_object ?_
  simp [-StateT.run_bind, -bind_pure_comp]

/-- A tab is written under the one name of its priority. -/
theorem EntityTab.decode_encode (tab : EntityTab) : decode tab.encode = some tab := by
  refine Doc.record_object ?_
  simp [-StateT.run_bind, -bind_pure_comp, Record.optionalAlso_bind]

theorem ThemeVariant.decode_encode (variant : ThemeVariant) :
    decode variant.encode = some variant := by
  cases variant <;> rfl

theorem Theme.decode_encode (theme : Theme) : decode theme.encode = some theme := by
  refine Doc.record_object ?_
  simp [-StateT.run_bind, -bind_pure_comp, ThemeVariant.decode_encode]

theorem LocaleFile.decode_encode (file : LocaleFile) : decode file.encode = some file := rfl

theorem LocaleResource.decode_encode (resource : LocaleResource) :
    decode resource.encode = some resource := by
  have files := Record.decodeOptional_ofOption (Doc.listOf LocaleFile.decode)
    (fun files => .array (files.map LocaleFile.encode)) (Doc.listOf_map LocaleFile.decode_encode)
    nofun resource.files
  refine Doc.record_object ?_
  simp [-StateT.run_bind, -bind_pure_comp, files]

/-! ### Components and what holds them -/

theorem ComponentConfig.decode_encode (config : ComponentConfig) :
    decode config.encode = some config := by
  refine Doc.record_object ?_
  simp [-StateT.run_bind, -bind_pure_comp]

/-- A configuration that need not decode is written so that it does. -/
theorem ComponentConfig.decode_ofOption (config : Option ComponentConfig) :
    decode (.ofOption encode config) = config :=
  Doc.bind_ofOption decode encode decode_encode rfl config

theorem TechdocsAddon.decode_encode (addon : TechdocsAddon) : decode addon.encode = some addon := by
  refine Doc.record_object ?_
  simp [-StateT.run_bind, -bind_pure_comp, ComponentConfig.decode_ofOption]

theorem RouteMenuText.decode_encode (item : RouteMenuText) : decode item.encode = some item := by
  refine Doc.record_object ?_
  simp [-StateT.run_bind, -bind_pure_comp]

theorem RouteMenuComponent.decode_encode (item : RouteMenuComponent) :
    decode item.encode = some item := by
  have config := Record.decodeOptional_ofOption ComponentConfig.decode ComponentConfig.encode
    ComponentConfig.decode_encode nofun item.config
  refine Doc.record_object ?_
  simp [-StateT.run_bind, -bind_pure_comp, config]

/-- A component has no text, so it is not taken for a text item. -/
theorem RouteMenuText.decode_encode_component (item : RouteMenuComponent) :
    decode item.encode = none := by
  obtain ⟨_ | module, importName, _ | config⟩ := item <;> rfl

theorem RouteMenuItem.decode_encode (item : RouteMenuItem) : decode item.encode = some item := by
  cases item with
  | text item => simp [decode, encode, RouteMenuText.decode_encode]
  | component item =>
      simp [decode, encode, RouteMenuText.decode_encode_component,
        RouteMenuComponent.decode_encode]

theorem Route.decode_encode (route : Route) : decode route.encode = some route := by
  have menuItem := Doc.bind_ofOption RouteMenuItem.decode RouteMenuItem.encode
    RouteMenuItem.decode_encode rfl route.menuItem
  refine Doc.record_object ?_
  simp [-StateT.run_bind, -bind_pure_comp, menuItem, ComponentConfig.decode_ofOption]

/-! ### Columns -/

theorem KindFilter.decode_encode (filter : KindFilter) : decode filter.encode = some filter := by
  cases filter with
  | one kind => rfl
  | many kinds =>
      have listed : Doc.listOf Doc.string? (.strings kinds) = some kinds :=
        Doc.listOf_map Doc.string?_string kinds
      exact congrArg (Option.map many) listed

theorem CustomColumn.decode_encode (column : CustomColumn) :
    decode column.encode = some column := by
  have kind := Record.decodeOptional_map KindFilter.decode KindFilter.encode
    KindFilter.decode_encode (fun filter => by cases filter <;> nofun) column.kind
  have width := Record.decodeOptional_map Doc.uint32? (fun width => .int width.toNat)
    Doc.uint32?_toNat nofun column.width
  refine Doc.record_object ?_
  simp [-StateT.run_bind, -bind_pure_comp, kind, width]

/-- A configuration of the columns is read leniently as it was. -/
theorem ColumnConfig.ofDoc?_encode (config : ColumnConfig) :
    ofDoc? config.encode = some config := by
  obtain ⟨included, excluded, custom⟩ := config
  have strings (items : List String) : stringItems (.strings items) = items := by
    rw [Doc.strings, stringItems, List.filterMap_map]
    exact List.filterMap_some
  have columns (items : List CustomColumn) :
      customItems (.array (items.map CustomColumn.encode)) = items := by
    have inverse : CustomColumn.decode ∘ CustomColumn.encode = some :=
      funext CustomColumn.decode_encode
    rw [customItems, List.filterMap_map, inverse, List.filterMap_some]
  simp [ofDoc?, encode, Function.comp_def, strings, columns]

/-! ### Mount points -/

/-- No key with a meaning of its own is among the others of a configuration. -/
def MountPointConfig.Separate (config : MountPointConfig) : Prop :=
  ∀ member ∈ config.extra, member.1 ∉ ownKeys

theorem MountPointConfig.separate_of_decode {doc : Doc} {config : MountPointConfig}
    (decoded : decode doc = some config) : config.Separate := by
  obtain ⟨members, -, decoded⟩ := Option.bind_eq_some_iff.1 decoded
  obtain ⟨layout, -, decoded⟩ := Option.bind_eq_some_iff.1 decoded
  obtain ⟨props, -, decoded⟩ := Option.bind_eq_some_iff.1 decoded
  obtain ⟨condition, -, decoded⟩ := Option.bind_eq_some_iff.1 decoded
  cases decoded
  intro member kept own
  have other := (List.mem_filter.1 kept).2
  rw [List.contains_iff_mem.2 own] at other
  cases other

section Separate

variable {config : MountPointConfig}

theorem MountPointConfig.Separate.get?_extra (separate : config.Separate) {key : String}
    (own : key ∈ ownKeys) : Members.get? config.extra key = none := by
  refine (Members.get?_eq_none_iff config.extra key).2 fun mem => ?_
  obtain ⟨member, kept, rfl⟩ := List.mem_map.1 mem
  exact separate member kept own

theorem MountPointConfig.Separate.filter_extra (separate : config.Separate) :
    config.extra.filter (fun member => !ownKeys.contains member.1) = config.extra := by
  refine List.filter_eq_self.2 fun member mem => ?_
  simpa using separate member mem

/-- What is written under a key with a meaning of its own is not kept among the others. -/
theorem MountPointConfig.filter_optionalMember (key : String) (own : key ∈ ownKeys)
    (encode : α → Doc) (value : Option α) :
    (optionalMember key encode value).filter (fun member => !ownKeys.contains member.1) = [] := by
  cases value with
  | none => rfl
  | some value => simp [optionalMember, own]

/-- A configuration is read as it was, but for the `if` block, which is read as it was written. -/
theorem MountPointConfig.Separate.decode_encode (separate : config.Separate) :
    decode config.encode =
      (Record.decodeOptional ConditionBlock.decode
        (config.condition.map ConditionBlock.encode)).map fun condition =>
          { config with condition } := by
  obtain ⟨members, fields⟩ : ∃ members, members =
      optionalMember "layout" .object config.layout ++
        optionalMember "props" .object config.props ++
        optionalMember "if" ConditionBlock.encode config.condition ++ config.extra := ⟨_, rfl⟩
  have written : config.encode = .object members := congrArg Doc.object fields.symm
  have noLayout : Members.get? config.extra "layout" = none := separate.get?_extra (by decide)
  have noProps : Members.get? config.extra "props" = none := separate.get?_extra (by decide)
  have noBlock : Members.get? config.extra "if" = none := separate.get?_extra (by decide)
  have layout : Members.get? members "layout" = config.layout.map .object := by
    simp [fields, noLayout]
  have props : Members.get? members "props" = config.props.map .object := by
    simp [fields, noProps]
  have block : Members.get? members "if" = config.condition.map ConditionBlock.encode := by
    simp [fields, noBlock]
  have others : members.filter (fun member => !ownKeys.contains member.1) = config.extra := by
    rw [fields, List.filter_append, List.filter_append, List.filter_append,
      filter_optionalMember "layout" (by decide), filter_optionalMember "props" (by decide),
      filter_optionalMember "if" (by decide), separate.filter_extra]
    rfl
  rw [written, decode, Doc.object?]
  simp only [Option.bind_eq_bind, Option.bind_some, layout, props, block, others,
    Record.decodeOptional_object]
  cases Record.decodeOptional ConditionBlock.decode
    (config.condition.map ConditionBlock.encode) <;> rfl

theorem MountPointConfig.Separate.decode_encode_unconditional (separate : config.Separate)
    (unconditional : config.condition = none) : decode config.encode = some config := by
  have same : { config with condition := none } = config := by rw [← unconditional]
  rw [separate.decode_encode, unconditional]
  exact congrArg some same

end Separate

/-- The configuration of a decoded mount point has been decoded itself. -/
theorem MountPoint.separate_of_decode {doc : Doc} {entry : MountPoint}
    (decoded : decode doc = some entry) {config : MountPointConfig}
    (configured : entry.config = some config) : config.Separate := by
  rw [decode, Doc.record_eq] at decoded
  obtain ⟨record, -, ran⟩ := Option.bind_eq_some_iff.1 decoded
  obtain ⟨left, ran, -⟩ := Record.run_eq_some_iff.1 ran
  simp only [Record.required_bind, Record.optional_bind, Option.bind_eq_some_iff,
    Record.pure_run] at ran
  obtain ⟨_, _, _, _, _, _, given, read, eq⟩ := ran
  cases eq
  obtain rfl : given = some config := configured
  rcases Record.decodeOptional_eq_some_iff.1 read with ⟨missing, -⟩ | ⟨_, -, -, _, decoded, same⟩
  · cases missing
  · obtain rfl := Option.some.inj same
    exact MountPointConfig.separate_of_decode decoded

/-- A mount point is read as it was where its configuration is. -/
theorem MountPoint.decode_encode {entry : MountPoint}
    (config : ∀ config, entry.config = some config →
      MountPointConfig.decode config.encode = some config) :
    decode entry.encode = some entry := by
  have configuration : Record.decodeOptional MountPointConfig.decode
      (some (.ofOption MountPointConfig.encode entry.config)) = some entry.config := by
    cases configured : entry.config with
    | none => rfl
    | some own => exact congrArg (Option.map some) (config own configured)
  refine Doc.record_object ?_
  simp [-StateT.run_bind, -bind_pure_comp, configuration]

/-! ## The forms of entries -/

/-- How the entries of one kind are read and written. -/
structure EntryForm where
  Entry : Type
  decode : Doc → Option Entry
  encode : Entry → Doc

namespace EntryForm

/-- The forms of the entries that can be declared, but for mount points. -/
def forms : List EntryForm :=
  [⟨ModuleImport, ModuleImport.decode, ModuleImport.encode⟩,
    ⟨Route, Route.decode, Route.encode⟩,
    ⟨RouteMenuItem, RouteMenuItem.decode, RouteMenuItem.encode⟩,
    ⟨AppIcon, AppIcon.decode, AppIcon.encode⟩,
    ⟨BindingTarget, BindingTarget.decode, BindingTarget.encode⟩,
    ⟨RouteBinding, RouteBinding.decode, RouteBinding.encode⟩,
    ⟨TechdocsAddon, TechdocsAddon.decode, TechdocsAddon.encode⟩,
    ⟨Theme, Theme.decode, Theme.encode⟩,
    ⟨LocaleResource, LocaleResource.decode, LocaleResource.encode⟩,
    ⟨EntityTab, EntityTab.decode, EntityTab.encode⟩,
    ⟨SignInPage, SignInPage.decode, SignInPage.encode⟩,
    ⟨MenuOverride, MenuOverride.decode, MenuOverride.encode⟩,
    ⟨ProviderSetting, ProviderSetting.decode, ProviderSetting.encode⟩,
    ⟨CustomColumn, CustomColumn.decode, CustomColumn.encode⟩,
    ⟨KindFilter, KindFilter.decode, KindFilter.encode⟩]

theorem decode_encode_of_mem {form : EntryForm} (mem : form ∈ forms) (entry : form.Entry) :
    form.decode (form.encode entry) = some entry := by
  simp only [forms, List.mem_cons, List.not_mem_nil, or_false] at mem
  rcases mem with rfl | rfl | rfl | rfl | rfl | rfl | rfl | rfl | rfl | rfl | rfl | rfl | rfl |
    rfl | rfl
  · exact ModuleImport.decode_encode entry
  · exact Route.decode_encode entry
  · exact RouteMenuItem.decode_encode entry
  · exact AppIcon.decode_encode entry
  · exact BindingTarget.decode_encode entry
  · exact RouteBinding.decode_encode entry
  · exact TechdocsAddon.decode_encode entry
  · exact Theme.decode_encode entry
  · exact LocaleResource.decode_encode entry
  · exact EntityTab.decode_encode entry
  · exact SignInPage.decode_encode entry
  · exact MenuOverride.decode_encode entry
  · exact ProviderSetting.decode_encode entry
  · exact CustomColumn.decode_encode entry
  · exact KindFilter.decode_encode entry

/-- **Every entry is decoded as what it was written from**, in whatever form it was declared. Of a
mount point this is said where there is no `if` block; a configuration of the columns is read
leniently. -/
theorem read_back :
    (∀ form ∈ forms, ∀ entry, form.decode (form.encode entry) = some entry) ∧
      (∀ doc config, MountPointConfig.decode doc = some config → config.condition = none →
        MountPointConfig.decode config.encode = some config) ∧
      (∀ doc entry, MountPoint.decode doc = some entry →
        entry.config.bind (·.condition) = none → MountPoint.decode entry.encode = some entry) ∧
      ∀ config : ColumnConfig, ColumnConfig.ofDoc? config.encode = some config := by
  refine ⟨fun form mem entry => decode_encode_of_mem mem entry, fun doc config decoded none => ?_,
    fun doc entry decoded none => ?_, ColumnConfig.ofDoc?_encode⟩
  · exact (MountPointConfig.separate_of_decode decoded).decode_encode_unconditional none
  · refine MountPoint.decode_encode fun config configured => ?_
    rw [configured] at none
    exact (MountPoint.separate_of_decode decoded configured).decode_encode_unconditional none

/-- The configuration of a mount point with a `null` and with keys that have no meaning. -/
def configSample : Doc :=
  .object
    [("order", .int 1), ("layout", .object [("gridColumn", .string "1 / -1")]), ("props", .null),
      ("", .null)]

/-- A tab with the misspelt name of its priority, a configuration with keys of all kinds, and a
mount point that is written as a list. -/
theorem read_back_samples :
    (∃ tab, EntityTab.decode (.object [("pariority", .int 3), ("path", .string "/docs"),
          ("mountPoint", .string "entity.page.docs"), ("title", .string "Docs")]) = some tab ∧
        (⟨EntityTab, EntityTab.decode, EntityTab.encode⟩ : EntryForm) ∈ forms ∧
        EntityTab.decode tab.encode = some tab) ∧
      (∃ config, MountPointConfig.decode configSample = some config ∧ config.condition = none ∧
        MountPointConfig.decode config.encode = some config) ∧
      ∃ entry, MountPoint.decode (.array [.string "tabs", .null, .string "Listed", configSample]) =
          some entry ∧
        entry.config.bind (·.condition) = none ∧ MountPoint.decode entry.encode = some entry := by
  have tabs : (⟨EntityTab, EntityTab.decode, EntityTab.encode⟩ : EntryForm) ∈ forms := by
    simp [forms]
  refine ⟨⟨_, rfl, tabs, read_back.1 _ tabs _⟩, ⟨_, rfl, rfl, ?_⟩, ⟨_, rfl, rfl, ?_⟩⟩
  · exact read_back.2.1 configSample _ rfl rfl
  · exact read_back.2.2.1 (.array [.string "tabs", .null, .string "Listed", configSample]) _ rfl rfl

end EntryForm

end PortalConfig
