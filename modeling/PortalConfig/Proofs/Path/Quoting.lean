import PortalConfig.Proofs.Numeral
import PortalConfig.Proofs.Path.Composition

/-!
# Brackets with and without quotes

A bracket adds one step to the steps of a closed path (`Path.Closed.parse_bracket`). With quotes
this step is a key. Without quotes it is a key too, or an index where the text is a numeral, and an
index names the member of an object under the decimal digits of its number. So both spellings lead
to the same place, except that a numeral with a plus sign or with needless zeros loses these
on the way to an object (`Path.Closed.lookup?_bracket`).
-/

namespace PortalConfig

/-- A numeral that is read as an index and is not written as its number is. -/
def Path.Respelled (text : List Char) : Prop :=
  (position? text).isSome = true ∧ Numeral.IsPadded text

instance : DecidablePred Path.Respelled := fun text =>
  inferInstanceAs (Decidable ((Path.position? text).isSome = true ∧ Numeral.IsPadded text))

/-- What a text without a closing bracket holds without quotes, it holds with quotes. -/
theorem Path.Held.quoted {text : List Char} (held : Held none text) {quote : Char}
    (isQuote : IsQuote quote) : Held (some quote) text := by
  obtain ⟨-, unclosed⟩ := held
  refine ⟨isQuote, fun closing => unclosed ?_⟩
  exact closing.subset (List.mem_cons_of_mem _ List.mem_cons_self)

/-! ## The step of a bracket -/

section Steps

variable {path key : String}

theorem Path.Closed.parse_bracket (closed : Closed path.toList) {quote : Option Char}
    {text : List Char} (held : Held quote text) :
    parse (path ++ String.ofList (Path.bracket quote text)) =
      parse path ++ [.ofHeld quote text] := by
  obtain ⟨done, last, whole, split⟩ := closed.parse_eq
  have ended := steps_append (.plain last) (Path.bracket quote text) []
  rw [List.append_nil, read_bracket held] at ended
  calc parse (path ++ String.ofList (Path.bracket quote text))
      = done ++ steps (.plain last) (Path.bracket quote text) := by rw [split, String.toList_ofList]
    _ = done ++ (plainKey last ++ [.ofHeld quote text]) := by
        rw [ended]
        exact congrArg (done ++ ·) (List.append_nil _)
    _ = parse path ++ [.ofHeld quote text] := by rw [whole, List.append_assoc]

theorem Path.Closed.parse_bare (closed : Closed path.toList) (held : Held none key.toList) :
    parse (path ++ "[" ++ key ++ "]") = parse path ++ [.ofBracket key.toList] := by
  have text : path ++ "[" ++ key ++ "]" = path ++ String.ofList (Path.bracket none key.toList) := by
    rw [← String.toList_inj]
    simp [Path.bracket, closing]
  rw [text, closed.parse_bracket held]
  rfl

theorem Path.Closed.parse_heldInQuotes (closed : Closed path.toList)
    (held : Held (some '\'') key.toList) :
    parse (path ++ "['" ++ key ++ "']") = parse path ++ [.key key] := by
  have text : path ++ "['" ++ key ++ "']" =
      path ++ String.ofList (Path.bracket (some '\'') key.toList) := by
    rw [← String.toList_inj]
    simp [Path.bracket, closing]
  have step : Segment.ofHeld (some '\'') key.toList = .key key :=
    congrArg Segment.key String.ofList_toList
  rw [text, closed.parse_bracket held, step]

theorem Path.Closed.parse_quoted (closed : Closed path.toList) (held : Held none key.toList) :
    parse (path ++ "['" ++ key ++ "']") = parse path ++ [.key key] :=
  closed.parse_heldInQuotes (held.quoted (Or.inl rfl))

end Steps

/-! ## Where it leads -/

/-- The last step of a path is taken from where the steps before it lead. -/
theorem Doc.lookup?_of_parse_concat (doc : Doc) {path : String} {segments : List Path.Segment}
    {last : Path.Segment} (steps : Path.parse path = segments ++ [last]) :
    doc.lookup? path = ((doc.follow? segments).bind (·.step? last)).filter (!·.isNull) := by
  have nonempty : Path.parse path ≠ [] := by
    rw [steps]
    exact List.concat_ne_nil _ _
  have one (container : Doc) : container.follow? [last] = container.step? last := by
    rw [follow?, List.foldlM_cons]
    exact bind_pure _
  rw [lookup?_of_parse nonempty, steps, follow?_append, funext one]

/-- An index is found in an object under the digits of its number. -/
theorem Doc.step?_object_ofBracket {members : Members Doc} {text : List Char} {n : Nat}
    (index : Path.position? text = some n) :
    (object members).step? (.ofBracket text) = members.get? (numeral n) := by
  rw [Path.Segment.ofBracket, index]
  rfl

/-- Only an object tells an index from the numeral it was written as, and only a respelled one. -/
theorem Doc.step?_ofBracket {container : Doc} {key : String}
    (usual : ∀ members, container = .object members → ¬ Path.Respelled key.toList) :
    container.step? (.ofBracket key.toList) = container.step? (.key key) := by
  cases index : Path.position? key.toList with
  | none => rw [Path.Segment.ofBracket, index, String.ofList_toList]
  | some n =>
      cases container with
      | object members =>
          have plain : ¬ Numeral.IsPadded key.toList := fun padded =>
            usual members rfl ⟨Option.isSome_of_eq_some index, padded⟩
          have digits : key.toList = Nat.toDigits 10 n := (Numeral.eq_toDigits_iff index).2 plain
          have written : numeral n = key := by
            rw [numeral, ← digits, String.ofList_toList]
          rw [step?_object_ofBracket index, written]
          rfl
      | array items =>
          rw [Path.Segment.ofBracket, index]
          change items[n]? = (Path.position? key.toList).bind fun n => items[n]?
          rw [index]
          rfl
      | null | bool _ | number _ | string _ =>
          rw [Path.Segment.ofBracket, index]
          rfl

/-- **Quotes around the text of a bracket do not matter**, unless it is a numeral with a plus sign
or with needless zeros and the path leads to an object before it. There the numeral stands for its
number without quotes, and for itself with them. -/
theorem Path.Closed.lookup?_bracket {path key : String} (closed : Closed path.toList)
    (held : Held none key.toList) (doc : Doc) :
    ((∀ members, doc.follow? (parse path) = some (.object members) → ¬ Respelled key.toList) →
      doc.lookup? (path ++ "[" ++ key ++ "]") = doc.lookup? (path ++ "['" ++ key ++ "']")) ∧
    ∀ members n, doc.follow? (parse path) = some (.object members) →
      position? key.toList = some n →
      doc.lookup? (path ++ "[" ++ key ++ "]") =
          (Members.get? members (numeral n)).filter (!·.isNull) ∧
        doc.lookup? (path ++ "['" ++ key ++ "']") =
          (Members.get? members key).filter (!·.isNull) := by
  have bare := doc.lookup?_of_parse_concat (closed.parse_bare held)
  have quoted := doc.lookup?_of_parse_concat (closed.parse_quoted held)
  refine ⟨fun usual => ?_, fun members n reached index => ?_⟩
  · rw [bare, quoted]
    cases reached : doc.follow? (parse path) with
    | none => rfl
    | some container =>
        have same : container.step? (.ofBracket key.toList) = container.step? (.key key) := by
          refine Doc.step?_ofBracket fun members isObject => usual members ?_
          rw [reached, isObject]
        exact congrArg (Option.filter _) same
  · rw [bare, quoted, reached, Option.bind_some, Option.bind_some,
      Doc.step?_object_ofBracket index]
    exact ⟨rfl, rfl⟩

/-- Ports by number, and a list of them. -/
def Doc.portsSample : Doc :=
  .object
    [("byNumber", .object [("7", .string "seven"), ("007", .string "padded")]),
      ("listed", .strings ["http", "grpc"])]

theorem Path.Closed.lookup?_bracket_samples :
    (Closed "listed".toList ∧ Held none "+1".toList ∧
        (∀ members, Doc.portsSample.follow? (parse "listed") = some (.object members) →
          ¬ Respelled "+1".toList) ∧
        Doc.portsSample.lookup? ("listed" ++ "[" ++ "+1" ++ "]") =
          Doc.portsSample.lookup? ("listed" ++ "['" ++ "+1" ++ "']")) ∧
      Closed "byNumber".toList ∧ Held none "007".toList ∧ position? "007".toList = some 7 ∧
      Doc.portsSample.lookup? ("byNumber" ++ "[" ++ "007" ++ "]") = some (.string "seven") ∧
      Doc.portsSample.lookup? ("byNumber" ++ "['" ++ "007" ++ "']") = some (.string "padded") := by
  have listed : Closed "listed".toList := .of_not_mem (by decide)
  have byNumber : Closed "byNumber".toList := .of_not_mem (by decide)
  have usual : ∀ members, Doc.portsSample.follow? (parse "listed") = some (.object members) →
      ¬ Respelled "+1".toList := nofun
  refine ⟨⟨listed, by decide, usual, ?_⟩, byNumber, by decide, rfl, ?_⟩
  · exact (listed.lookup?_bracket (by decide) Doc.portsSample).1 usual
  · exact (byNumber.lookup?_bracket (by decide) Doc.portsSample).2 _ 7 rfl rfl

/-- The member `007` is not found by the index seven. -/
theorem Path.lookup?_bracket_respelled :
    let doc := Doc.object [("007", .int 1)]
    Closed "".toList ∧ "007" ≠ "" ∧ Held none "007".toList ∧
      doc.lookup? ("" ++ "[" ++ "007" ++ "]") = none ∧
      doc.lookup? ("" ++ "['" ++ "007" ++ "']") = some (.int 1) :=
  ⟨.nil, by decide, by decide, rfl, rfl⟩

end PortalConfig
