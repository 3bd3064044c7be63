import PortalConfig.Proofs.Aggregation
import PortalConfig.Proofs.Frontend
import PortalConfig.Proofs.Lint.Findings
import PortalConfig.Proofs.Record

/-!
# Sign-in pages that are ignored

Linting judges a sign-in page by its shape and its export alone. Resolving reads the whole entry,
its module too, and also accepts a page that is written as the list of its fields. The two agree on
whether a plugin has a sign-in page, except on objects that name an export beside a module that is
no string (`SignInPage.BadModule`) and on lists that are read as a page (`SignInPage.Listed`); there
they disagree always (`Lint.reported_signInPage_iff`).
-/

namespace PortalConfig

/-! ## Pages on documents -/

/-- A field that may be left out: nothing, `null` or a string. -/
def Doc.OptionalText (given : Option Doc) : Prop :=
  ∀ value, given = some value → value = .null ∨ ∃ text, value = .string text

/-- The value names an export: a string that is not empty. -/
def Doc.NamesExport (given : Option Doc) : Prop :=
  ∃ name, given = some (.string name) ∧ name ≠ ""

/-- An object that names an export beside a module that cannot be read. -/
def SignInPage.BadModule (value : Doc) : Prop :=
  ∃ page : Members Doc, value = .object page ∧ Doc.NamesExport (page.get? "importName") ∧
    ¬ Doc.OptionalText (page.get? "module")

/-- The list of the fields of a page that names an export. -/
def SignInPage.Listed (value : Doc) : Prop :=
  ∃ module name, value = .array [module, .string name] ∧ Doc.OptionalText (some module) ∧ name ≠ ""

/-- A frontend has a finding about the sign-in page of a scope. -/
def SignInPage.Reported (frontend : Doc) (scope : String) : Prop :=
  ∃ finding ∈ Lint.frontend frontend, finding.IsAbout scope "signInPage"

/-- A scope of a frontend registers a sign-in page. -/
def SignInPage.Registered (frontend : Doc) (scope : String) : Prop :=
  ∃ entry ∈ (Frontend.ofDoc frontend).resolve.signInPages, entry.scope = scope

namespace SignInPage

/-! ## What is reported -/

theorem namesExport_iff {members : Members Doc} :
    Lint.namesExport (.object members) = true ↔ Doc.NamesExport (members.get? "importName") := by
  have own : (Doc.object members).get? "importName" = members.get? "importName" := rfl
  unfold Lint.namesExport Doc.NamesExport
  rw [own]
  cases members.get? "importName" with
  | none => simp
  | some value =>
      cases value with
      | string name => simp [Doc.string?]
      | null | bool _ | number _ | array _ | object _ => simp [Doc.string?]

/-- A sign-in page is reported unless it is an object that names an export. -/
theorem reported_iff {doc value : Doc} {scope : String} {members : Members Doc}
    (distinct : doc.KeysDistinct) (plugin : doc.get? scope = some (.object members))
    (own : members.get? "signInPage" = some value) (given : value ≠ .null) :
    Reported doc scope ↔
      ¬ ∃ page : Members Doc, value = .object page ∧ Doc.NamesExport (page.get? "importName") := by
  have known : "signInPage" ∈ Fragment.categories := by simp [Fragment.categories]
  have here : Reported doc scope ↔ ∃ finding, finding ∈ Lint.category scope "signInPage" value :=
    exists_congr fun _ => Lint.mem_frontend_isAbout_iff distinct plugin own
  rw [here]
  constructor
  · rintro ⟨finding, mem⟩ ⟨page, rfl, named⟩
    rcases Lint.mem_category_iff.1 mem with ⟨-, unknown⟩ | ⟨-, -, -, unfit⟩ | ⟨content, -⟩
    · exact unknown known
    · cases unfit
    · rcases Lint.mem_categoryContent_iff.1 content with ⟨-, -, unnamed⟩ | ⟨other, -⟩
      · rw [namesExport_iff.2 named] at unnamed
        cases unnamed
      · exact absurd other (by decide)
  · intro unnamed
    by_cases shape : ∃ page, value = .object page
    · obtain ⟨page, rfl⟩ := shape
      have missing : Lint.namesExport (.object page) = false := by
        rw [← Bool.not_eq_true, namesExport_iff]
        exact fun named => unnamed ⟨page, rfl, named⟩
      have content : FrontendFinding.signInPageIgnored scope ∈
          Lint.categoryContent scope "signInPage" (.object page) :=
        Lint.mem_categoryContent_iff.2 (Or.inl ⟨rfl, rfl, missing⟩)
      exact ⟨_, Lint.mem_category_iff.2 (Or.inr (Or.inr ⟨content, known, given, rfl⟩))⟩
    · have unfit : (CategoryShape.ofCategory "signInPage").fits value = false := by
        cases value with
        | object page => exact (shape ⟨page, rfl⟩).elim
        | null | bool _ | number _ | string _ | array _ => rfl
      exact ⟨_, Lint.mem_category_iff.2 (Or.inr (Or.inl ⟨rfl, known, given, unfit⟩))⟩

/-! ## What is registered -/

theorem exists_decodeOptional_iff {given : Option Doc} :
    (∃ text, Record.decodeOptional Doc.string? given = some text) ↔ Doc.OptionalText given := by
  constructor
  · rintro ⟨text, read⟩ value rfl
    rcases Record.decodeOptional_eq_some_iff.1 read with ⟨-, null⟩ | ⟨_, ⟨⟩, -, text, own, -⟩
    · exact Or.inl (null value rfl)
    · exact Or.inr ⟨text, Doc.string?_eq_some_iff.1 own⟩
  · intro optional
    cases given with
    | none => exact ⟨none, rfl⟩
    | some value =>
        rcases optional value rfl with rfl | ⟨text, rfl⟩
        · exact ⟨none, rfl⟩
        · exact ⟨some text, rfl⟩

theorem decodeOptional_eq_text_iff {given : Option Doc} {text : String} :
    Record.decodeOptional Doc.string? given = some (some text) ↔ given = some (.string text) := by
  constructor
  · intro read
    rcases Record.decodeOptional_eq_some_iff.1 read with ⟨none, -⟩ | ⟨value, rfl, -, _, own, ⟨⟩⟩
    · cases none
    · rw [Doc.string?_eq_some_iff.1 own]
  · rintro rfl
    rfl

/-- A value is read as a page that names an export field by field. -/
theorem exists_decode_iff {value : Doc} :
    (∃ page, decode value = some page ∧ ∃ name, page.importName = some name ∧ name ≠ "") ↔
      ∃ record, Record.ofDoc? value = some record ∧ Doc.OptionalText (record.next "module") ∧
        Doc.NamesExport (record.rest.next "importName") ∧ record.rest.rest.isDone = true := by
  have fields (page : SignInPage) : decode value = some page ↔
      ∃ record, Record.ofDoc? value = some record ∧
        Record.decodeOptional Doc.string? (record.next "module") = some page.module ∧
        Record.decodeOptional Doc.string? (record.rest.next "importName") =
          some page.importName ∧
        record.rest.rest.isDone = true := by
    simp only [decode, Doc.record_eq, Option.bind_eq_some_iff, Record.run_eq_some_iff,
      Record.optional_bind, Record.pure_run, Option.some.injEq, Prod.mk.injEq]
    constructor
    · rintro ⟨record, form, _, ⟨module, readModule, name, readName, rfl, rfl⟩, done⟩
      exact ⟨record, form, readModule, readName, done⟩
    · rintro ⟨record, form, readModule, readName, done⟩
      exact ⟨record, form, _, ⟨_, readModule, _, readName, rfl, rfl⟩, done⟩
  constructor
  · rintro ⟨page, read, name, own, nonempty⟩
    obtain ⟨record, form, readModule, readName, done⟩ := (fields page).1 read
    rw [own] at readName
    exact ⟨record, form, exists_decodeOptional_iff.1 ⟨_, readModule⟩,
      ⟨name, decodeOptional_eq_text_iff.1 readName, nonempty⟩, done⟩
  · rintro ⟨record, form, optional, ⟨name, own, nonempty⟩, done⟩
    obtain ⟨module, readModule⟩ := exists_decodeOptional_iff.2 optional
    have readName := decodeOptional_eq_text_iff.2 own
    exact ⟨⟨module, some name⟩, (fields _).2 ⟨record, form, readModule, readName, done⟩, name, rfl,
      nonempty⟩

theorem mem_signInPages_iff {frontend : Frontend} {scope : String} :
    (∃ entry ∈ frontend.resolve.signInPages, entry.scope = scope) ↔
      ∃ fragment page, frontend.get? scope = some fragment ∧ fragment.signInPage = some page ∧
        ∃ name, page.importName = some name ∧ name ≠ "" := by
  have pages : frontend.resolve.signInPages = frontend.toList.flatMap fun member =>
      member.2.signInPage.toList.filterMap (resolve? member.1) :=
    Registry.Listing.lawful_signInPages.list_resolve frontend
  simp only [pages, List.mem_flatMap, List.mem_filterMap, Option.mem_toList]
  constructor
  · rintro ⟨entry, ⟨⟨own, fragment⟩, mem, page, declared, resolved⟩, rfl⟩
    obtain ⟨name, named, rfl⟩ := Option.map_eq_some_iff.1 resolved
    obtain ⟨given, nonempty⟩ := Option.filter_eq_some_iff.1 named
    exact ⟨fragment, page, Members.get?_of_mem frontend.scopes.nodup mem, declared, name, given,
      by simpa using nonempty⟩
  · rintro ⟨fragment, page, found, declared, name, given, nonempty⟩
    have named : page.importName.filter (· != "") = some name :=
      Option.filter_eq_some_iff.2 ⟨given, by simpa using nonempty⟩
    refine ⟨⟨scope, page.module.getD defaultModule, name⟩,
      ⟨(scope, fragment), Members.mem_of_get?_eq_some found, page, declared, ?_⟩, rfl⟩
    exact Option.map_eq_some_iff.2 ⟨name, named, rfl⟩

/-- A scope registers a page when its value is an object that names an export beside a module that
can be read, or the list of such fields. -/
theorem registered_iff {doc value : Doc} {scope : String} {members : Members Doc}
    (distinct : doc.KeysDistinct) (plugin : doc.get? scope = some (.object members))
    (own : members.get? "signInPage" = some value) :
    Registered doc scope ↔
      (∃ page : Members Doc, value = .object page ∧ Doc.NamesExport (page.get? "importName") ∧
        Doc.OptionalText (page.get? "module")) ∨
      Listed value := by
  have read : Registered doc scope ↔
      ∃ page, decode value = some page ∧ ∃ name, page.importName = some name ∧ name ≠ "" := by
    have declared : (Fragment.ofMembers members).signInPage = decode value := by
      change (members.get? "signInPage").bind decode = decode value
      rw [own, Option.bind_some]
    rw [Registered, mem_signInPages_iff, Frontend.get?_ofDoc distinct, plugin, Option.map_some]
    change (∃ fragment page, some (Fragment.ofMembers members) = some fragment ∧ _) ↔ _
    constructor
    · rintro ⟨_, page, ⟨⟩, same, named⟩
      exact ⟨page, declared.symm.trans same, named⟩
    · rintro ⟨page, same, named⟩
      exact ⟨_, page, rfl, declared.trans same, named⟩
  rw [read, exists_decode_iff]
  cases value with
  | object page =>
      constructor
      · rintro ⟨record, ⟨⟩, optional, named, -⟩
        exact Or.inl ⟨page, rfl, named, optional⟩
      · rintro (⟨_, ⟨⟩, named, optional⟩ | ⟨_, _, ⟨⟩, -⟩)
        exact ⟨_, rfl, optional, named, rfl⟩
  | array items =>
      constructor
      · rintro ⟨record, ⟨⟩, optional, ⟨name, named, nonempty⟩, done⟩
        rcases items with _ | ⟨module, _ | ⟨export', _ | ⟨surplus, rest⟩⟩⟩
        · cases named
        · cases named
        · obtain rfl := Option.some.inj named
          exact Or.inr ⟨module, name, rfl, optional, nonempty⟩
        · cases done
      · rintro (⟨_, ⟨⟩, -⟩ | ⟨module, name, ⟨⟩, optional, nonempty⟩)
        exact ⟨_, rfl, optional, ⟨name, rfl, nonempty⟩, rfl⟩
  | null | bool _ | number _ | string _ =>
      constructor
      · rintro ⟨_, ⟨⟩, -⟩
      · rintro (⟨_, ⟨⟩, -⟩ | ⟨_, _, ⟨⟩, -⟩)

end SignInPage

/-! ## Agreement -/

open SignInPage

/-- **Sign-in pages are reported when they are ignored,** except where an export stands beside a
module that cannot be read, which is ignored without a finding, and where the fields of a page are
listed, which is registered with one. -/
theorem Lint.reported_signInPage_iff {doc value : Doc} {scope : String} {members : Members Doc}
    (distinct : doc.KeysDistinct) (plugin : doc.get? scope = some (.object members))
    (own : members.get? "signInPage" = some value) (given : value ≠ .null) :
    (¬ BadModule value → ¬ Listed value → (Reported doc scope ↔ ¬ Registered doc scope)) ∧
      (BadModule value → ¬ Reported doc scope ∧ ¬ Registered doc scope) ∧
      (Listed value → Reported doc scope ∧ Registered doc scope) := by
  have reported := reported_iff distinct plugin own given
  have registered := registered_iff distinct plugin own
  refine ⟨fun readable notListed => ?_, ?_, ?_⟩
  · rw [reported, registered, not_iff_not]
    constructor
    · rintro ⟨page, rfl, named⟩
      have optional : Doc.OptionalText (page.get? "module") := by
        by_contra bad
        exact readable ⟨page, rfl, named, bad⟩
      exact Or.inl ⟨page, rfl, named, optional⟩
    · rintro (⟨page, object, named, -⟩ | listed)
      · exact ⟨page, object, named⟩
      · exact (notListed listed).elim
  · rintro ⟨page, rfl, named, bad⟩
    rw [reported, registered]
    refine ⟨not_not_intro ⟨page, rfl, named⟩, ?_⟩
    rintro (⟨_, ⟨⟩, -, optional⟩ | ⟨_, _, ⟨⟩, -⟩)
    exact bad optional
  · intro listed
    rw [reported, registered]
    refine ⟨?_, Or.inr listed⟩
    rintro ⟨page, rfl, -⟩
    obtain ⟨_, _, ⟨⟩, -⟩ := listed

/-- A page with a module that is no string, a page that is written as a list, and a page without an
export. -/
def SignInPage.samplePages : Doc :=
  .object
    [("acme.auth", .object
        [("signInPage", .object [("importName", .string "SignIn"), ("module", .int 3)])]),
      ("acme.listed", .object [("signInPage", .array [.string "Auth", .string "SignIn"])]),
      ("acme.unnamed", .object [("signInPage", .object [("module", .string "Auth")])])]

theorem Lint.reported_signInPage_iff_samplePages :
    samplePages.KeysDistinct ∧
      (¬ Reported samplePages "acme.auth" ∧ ¬ Registered samplePages "acme.auth") ∧
      (Reported samplePages "acme.listed" ∧ Registered samplePages "acme.listed") ∧
      (Reported samplePages "acme.unnamed" ↔ ¬ Registered samplePages "acme.unnamed") := by
  have distinct : samplePages.KeysDistinct := by
    simp [samplePages, Doc.KeysDistinct, Doc.ItemsDistinct, Doc.MembersDistinct, Members.keys]
  have bad : BadModule (.object [("importName", .string "SignIn"), ("module", .int 3)]) := by
    refine ⟨_, rfl, ⟨"SignIn", rfl, by decide⟩, fun optional => ?_⟩
    rcases optional _ rfl with null | ⟨_, text⟩
    · cases null
    · cases text
  have listed : Listed (.array [.string "Auth", .string "SignIn"]) := by
    refine ⟨_, _, rfl, fun value same => ?_, by decide⟩
    exact Or.inr ⟨"Auth", (Option.some.inj same).symm⟩
  refine ⟨distinct, ?_, ?_, ?_⟩
  · exact (reported_signInPage_iff distinct rfl rfl Doc.noConfusion).2.1 bad
  · exact (reported_signInPage_iff distinct rfl rfl Doc.noConfusion).2.2 listed
  · refine (reported_signInPage_iff distinct rfl rfl Doc.noConfusion).1 ?_ ?_
    · rintro ⟨_, ⟨⟩, ⟨_, named, -⟩, -⟩
      cases named
    · rintro ⟨_, _, ⟨⟩, -⟩

/-- A page whose module cannot be read is ignored without a finding, and a page that is written as a
list is registered with one. -/
theorem SignInPage.not_reported_iff_not_registered :
    ¬ (Reported samplePages "acme.auth" ↔ ¬ Registered samplePages "acme.auth") ∧
      ¬ (Reported samplePages "acme.listed" ↔ ¬ Registered samplePages "acme.listed") := by
  have findings : Lint.frontend samplePages =
      [.wrongShape "acme.listed" "signInPage" .map (.array [.string "Auth", .string "SignIn"]),
        .signInPageIgnored "acme.unnamed"] := rfl
  have pages : (Frontend.ofDoc samplePages).resolve.signInPages =
      [⟨"acme.listed", "Auth", "SignIn"⟩] := rfl
  have reported (scope : String) : Reported samplePages scope ↔
      scope = "acme.listed" ∨ scope = "acme.unnamed" := by
    rw [Reported, findings]
    simp [FrontendFinding.IsAbout, eq_comm]
  have registered (scope : String) : Registered samplePages scope ↔ scope = "acme.listed" := by
    rw [Registered, pages]
    simp [eq_comm]
  simp [reported, registered]

end PortalConfig
