import PortalConfig.Proofs.Document
import PortalConfig.Source.Load

/-!
# Documents read from text

Whatever text a document is read from, none of its objects repeats a key
(`Doc.keysDistinct_of_ofText`): both readers gather the members of an object in a table. The proof
for JSON follows the recursion of the reader; the reader of nodes is judged by the values that its
parts may give (`Yaml.Following.Gives`).
-/

namespace PortalConfig

/-- Gathering members in a table repeats no key. -/
theorem Doc.keysDistinct_insertAll {pairs : List (String × Doc)}
    (inner : ∀ pair ∈ pairs, pair.2.KeysDistinct) :
    (Doc.object (Members.insertAll [] pairs)).KeysDistinct := by
  have table : Members.insertAll [] pairs = (Keyed.ofList pairs).members :=
    (Keyed.members_insertAll_eq pairs .empty).symm
  rw [table, keysDistinct_object_iff]
  exact ⟨(Keyed.ofList pairs).nodup, fun key value found =>
    inner (key, value) (Keyed.mem_of_get?_ofList found)⟩

theorem Doc.keysDistinct_array {items : List Doc} (inner : ∀ item ∈ items, item.KeysDistinct) :
    (Doc.array items).KeysDistinct := by
  change ItemsDistinct items
  induction items with
  | nil => trivial
  | cons item rest ih =>
      exact ⟨inner item List.mem_cons_self,
        ih fun other later => inner other (List.mem_cons_of_mem _ later)⟩

/-- Less is left after one element more. -/
theorem Rest.length_lt_of_rest_eq_cons {τ α : Type} {limit : Nat} {read : Rest τ α limit}
    {next : τ} {rest : List τ} (left : read.rest = next :: rest) : rest.length < limit := by
  have shorter := read.shorter
  rw [left, List.length_cons] at shorter
  exact Nat.lt_of_succ_lt shorter

/-! ## JSON -/

namespace Json

mutual

theorem keysDistinct_of_value? (room : Nat) (tokens : List Token) :
    ∀ read, value? room tokens = some read → read.value.KeysDistinct := by
  intro read found
  rw [value?.eq_def] at found
  split at found
  · cases found; trivial
  · cases found; trivial
  · cases found; trivial
  · cases found; trivial
  · split at found
    · cases found
    · cases found
      trivial
    · obtain ⟨items, inside, rfl⟩ := Option.map_eq_some_iff.1 found
      exact Doc.keysDistinct_array (keysDistinct_of_items? _ _ items inside)
  · split at found
    · cases found
    · cases found
      exact ⟨List.nodup_nil, trivial⟩
    · obtain ⟨pairs, inside, rfl⟩ := Option.map_eq_some_iff.1 found
      exact Doc.keysDistinct_insertAll (keysDistinct_of_members? _ _ pairs inside)
  · cases found
termination_by (tokens.length, 0)

theorem keysDistinct_of_items? (room : Nat) (tokens : List Token) :
    ∀ read, items? room tokens = some read → ∀ item ∈ read.value, item.KeysDistinct := by
  intro read found
  rw [items?.eq_def] at found
  split at found
  · cases found
  · rename_i first front
    have distinct := keysDistinct_of_value? room tokens first front
    split at found
    · cases found
      exact List.forall_mem_singleton.2 distinct
    · rename_i rest after
      obtain ⟨others, behind, rfl⟩ := Option.map_eq_some_iff.1 found
      have shorter : rest.length < tokens.length := Rest.length_lt_of_rest_eq_cons after
      exact List.forall_mem_cons.2 ⟨distinct, keysDistinct_of_items? room rest others behind⟩
    · cases found
termination_by (tokens.length, 1)

theorem keysDistinct_of_members? (room : Nat) (tokens : List Token) :
    ∀ read, members? room tokens = some read → ∀ pair ∈ read.value, pair.2.KeysDistinct := by
  intro read found
  rw [members?.eq_def] at found
  split at found
  · split at found
    · cases found
    · rename_i key start _ first front
      have distinct := keysDistinct_of_value? room start first front
      split at found
      · cases found
        exact List.forall_mem_singleton.2 distinct
      · rename_i rest after
        obtain ⟨others, behind, rfl⟩ := Option.map_eq_some_iff.1 found
        have shorter : rest.length < start.length := Rest.length_lt_of_rest_eq_cons after
        exact List.forall_mem_cons.2 ⟨distinct, keysDistinct_of_members? room rest others behind⟩
      · cases found
  · cases found
termination_by (tokens.length, 1)
decreasing_by
  -- The tokens start with a key and a colon.
  all_goals
    subst_vars
    simp only [List.length_cons, Prod.lex_def]
    omega

end

theorem keysDistinct_of_read? {text : String} {doc : Doc} (found : read? text = some doc) :
    doc.KeysDistinct := by
  obtain ⟨tokens, -, found⟩ := Option.bind_eq_some_iff.1 found
  obtain ⟨whole, front, found⟩ := Option.bind_eq_some_iff.1 found
  obtain ⟨-, -, found⟩ := Option.bind_eq_some_iff.1 found
  obtain rfl := Option.some.inj found
  exact keysDistinct_of_value? depthLimit tokens whole front

end Json

/-! ## YAML -/

namespace Yaml

/-! Scalars hold no object. -/

theorem keysDistinct_of_float? {word : String} {doc : Doc} (found : float? word = some doc) :
    doc.KeysDistinct := by
  rw [float?] at found
  split at found
  · cases found
    trivial
  · obtain ⟨x, -, rfl⟩ := Option.map_eq_some_iff.1 found
    trivial

theorem keysDistinct_of_integerDoc? {n : Int} {doc : Doc} (found : integerDoc? n = some doc) :
    doc.KeysDistinct := by
  rw [integerDoc?, Option.ite_none_right_eq_some] at found
  obtain ⟨-, found⟩ := found
  cases found
  trivial

theorem keysDistinct_of_plainValue? {text : String} {doc : Doc}
    (found : plainValue? text = some doc) : doc.KeysDistinct := by
  rw [plainValue?] at found
  split at found
  · cases found
    trivial
  split at found
  · cases found
    trivial
  split at found
  · exact keysDistinct_of_integerDoc? found
  split at found
  · cases found
    trivial
  · obtain rfl := Option.some.inj found
    cases read : float? text with
    | none => trivial
    | some value => exact keysDistinct_of_float? read

theorem keysDistinct_of_untaggedValue? {isPlain : Bool} {text : String} {doc : Doc}
    (found : untaggedValue? isPlain text = some doc) : doc.KeysDistinct := by
  rw [untaggedValue?] at found
  split at found
  · exact keysDistinct_of_plainValue? found
  · cases found
    trivial

theorem keysDistinct_of_scalarValue? {tag : Option (List UInt8)} {isPlain : Bool} {text : String}
    {doc : Doc} (found : scalarValue? tag isPlain text = some doc) : doc.KeysDistinct := by
  unfold scalarValue? at found
  split at found
  · exact keysDistinct_of_untaggedValue? found
  split at found
  · cases found
  split at found
  · exact keysDistinct_of_untaggedValue? found
  split at found
  · obtain ⟨b, -, rfl⟩ := Option.map_eq_some_iff.1 found
    trivial
  split at found
  · obtain ⟨n, -, found⟩ := Option.bind_eq_some_iff.1 found
    exact keysDistinct_of_integerDoc? found
  split at found
  · exact keysDistinct_of_float? found
  split at found
  · obtain ⟨-, found⟩ := Option.ite_none_right_eq_some.1 found
    cases found
    trivial
  · cases found
    trivial

namespace Following

/-- Every value that the computation may give has the property, whatever the references stand for
and however many of them may still be followed. -/
def Gives {α : Type} (Property : α → Prop) (computation : Following α) : Prop :=
  ∀ nodes left value rest, computation nodes left = some (value, rest) → Property value

variable {α β : Type} {Property : α → Prop} {Other : β → Prop}

theorem Gives.pure {value : α} (holds : Property value) :
    Gives Property (Pure.pure value : Following α) := by
  intro nodes left value' rest result
  cases result
  exact holds

theorem Gives.failure : Gives Property (Alternative.failure : Following α) :=
  fun _ _ _ _ result => nomatch result

theorem Gives.lift {option : Option α} (holds : ∀ value, option = some value → Property value) :
    Gives Property (liftM option : Following α) := by
  intro nodes left value rest result
  cases option with
  | none => cases result
  | some found =>
      cases result
      exact holds value rfl

theorem Gives.bind {computation : Following β} {next : β → Following α}
    (earlier : Gives Other computation)
    (later : ∀ value, Other value → Gives Property (next value)) :
    Gives Property (computation >>= next) := by
  intro nodes left value rest result
  obtain ⟨⟨first, middle⟩, found, result⟩ := Option.bind_eq_some_iff.1 result
  exact later first (earlier nodes left first middle found) nodes middle value rest result

/-- A first computation that does not matter. -/
theorem Gives.after {computation : Following β} {next : β → Following α}
    (later : ∀ value, Gives Property (next value)) : Gives Property (computation >>= next) :=
  have earlier : Gives (fun _ => True) computation := fun _ _ _ _ _ => trivial
  earlier.bind fun value _ => later value

theorem Gives.mapM {computation : α → Following β} (each : ∀ a, Gives Other (computation a))
    (items : List α) :
    Gives (fun values => ∀ value ∈ values, Other value) (items.mapM computation) := by
  induction items with
  | nil =>
      rw [List.mapM_nil]
      exact .pure (List.forall_mem_nil _)
  | cons item rest ih =>
      rw [List.mapM_cons]
      refine .bind (each item) fun value holds => .bind ih fun values all => .pure ?_
      exact List.forall_mem_cons.2 ⟨holds, all⟩

end Following

namespace Node

open Following

/-- The documents of a node repeat no key when those of the nodes in it do not. -/
theorem gives_content {inner : Option (Node Nat → Following Doc)}
    (within : ∀ read, inner = some read → ∀ node, Gives Doc.KeysDistinct (read node))
    (node : Node Nat) : Gives Doc.KeysDistinct (node.content inner) := by
  unfold content
  split
  · exact .lift fun doc found => keysDistinct_of_scalarValue? found
  · rename_i read properties items
    refine .bind (.mapM (within read rfl) items) fun docs distinct => .pure ?_
    exact Doc.keysDistinct_array distinct
  · rename_i read properties entries
    have each (entry : Node Nat × Node Nat) :
        Gives (fun pair : String × Doc => pair.2.KeysDistinct)
          (do return (← entry.1.keyText, ← read entry.2)) :=
      .after fun key => .bind (within read rfl entry.2) fun doc distinct => .pure distinct
    refine .bind (.mapM each entries) fun pairs distinct => .pure ?_
    exact Doc.keysDistinct_insertAll distinct
  · exact .failure

theorem gives_value (room : Nat) (node : Node Nat) : Gives Doc.KeysDistinct (node.value room) := by
  induction room generalizing node with
  | zero =>
      refine .after fun target => gives_content (fun read here => ?_) target
      cases here
  | succ room ih =>
      refine .after fun target => gives_content (fun read here => ?_) target
      obtain rfl := Option.some.inj here
      exact ih

theorem keysDistinct_of_doc? {node : Node String} {doc : Doc} (found : node.doc? = some doc) :
    doc.KeysDistinct := by
  obtain ⟨numbered, -, found⟩ := Option.bind_eq_some_iff.1 found
  obtain ⟨⟨value, left⟩, given, found⟩ := Option.bind_eq_some_iff.1 found
  obtain rfl := Option.some.inj found
  exact gives_value depthLimit numbered.2 _ _ value left given

end Node

theorem keysDistinct_of_read? {text : String} {doc : Doc} (found : read? text = some doc) :
    doc.KeysDistinct := by
  obtain ⟨-, -, found⟩ := Option.bind_eq_some_iff.1 found
  obtain ⟨tokens, -, found⟩ := Option.bind_eq_some_iff.1 found
  obtain ⟨⟨root, rest⟩, -, found⟩ := Option.bind_eq_some_iff.1 found
  obtain ⟨-, -, given⟩ := Option.bind_eq_some_iff.1 found
  exact Node.keysDistinct_of_doc? given

end Yaml

/-! ## Files -/

/-- The parser gives no document with an object in it that repeats a key. -/
def DocumentParser.RepeatsNoKey (parser : DocumentParser) : Prop :=
  ∀ format content doc, parser format content = .ok doc → doc.KeysDistinct

theorem DocumentFormat.parse_eq_ok_iff {format : DocumentFormat} {content : String} {doc : Doc} :
    parse format content = .ok doc ↔ format.parse? content = some doc := by
  unfold parse
  cases format.parse? content with
  | none => exact ⟨nofun, nofun⟩
  | some own => rw [Except.ok.injEq, Option.some.injEq]

theorem DocumentFormat.repeatsNoKey_parse : DocumentParser.RepeatsNoKey parse := by
  intro format content doc parsed
  have found : format.parse? content = some doc := parse_eq_ok_iff.1 parsed
  cases format with
  | yaml => exact Yaml.keysDistinct_of_read? found
  | json => exact Json.keysDistinct_of_read? found

theorem DocumentParser.RepeatsNoKey.keysDistinct_of_ofText {parser : DocumentParser}
    (repeatsNoKey : parser.RepeatsNoKey) {origin content : String} {format : DocumentFormat}
    {doc : Doc} (read : Doc.ofText origin content format parser = .ok doc) : doc.KeysDistinct := by
  rw [Doc.ofText] at read
  split at read
  · rename_i found
    cases read
    unfold DocumentFormat.read at found
    split at found
    · cases found
      trivial
    · exact repeatsNoKey format content doc found
  · cases read

/-- **No object of a document that was read from text repeats a key.** -/
theorem Doc.keysDistinct_of_ofText {origin content : String} {format : DocumentFormat} {doc : Doc}
    (read : ofText origin content format = .ok doc) : doc.KeysDistinct :=
  DocumentFormat.repeatsNoKey_parse.keysDistinct_of_ofText read

theorem Doc.keysDistinct_of_ofFile {files : Files} {path : String} {doc : Doc}
    (read : ofFile files path = .ok doc) : doc.KeysDistinct := by
  rw [ofFile] at read
  split at read
  · exact keysDistinct_of_ofText read
  · cases read

end PortalConfig
