import PortalConfig.Proofs.Path.Brackets

/-!
# Paths in a row

Reading a path up to a point where no bracket is open and reading on after a dot is reading two
paths. `Path.Closed` says that every bracket of a text is closed in it; after such a text a dot
begins a new path and a bracket that stays open takes all the rest. A document is followed along
such a path in two legs (`Path.Closed.composes`).
-/

namespace PortalConfig

/-- Every bracket that is opened in a text is closed in it. -/
inductive Path.Closed : List Char → Prop
  | nil : Closed []
  | plain {c : Char} {rest : List Char} : c ≠ '[' → Closed rest → Closed (c :: rest)
  | bracket {quote : Option Char} {text rest : List Char} :
    Held quote text → Closed rest → Closed (bracket quote text ++ rest)

/-- After an opening bracket, a text that never closes it: behind its quote, if it begins with
one, that quote is nowhere followed by a closing bracket; otherwise there is no closing bracket. -/
def Path.Unclosed (text : List Char) : Prop :=
  ∃ quote held, text = Option.toList quote ++ held ∧ Held quote held

/-! ## Where no bracket is open -/

/-- A text without brackets has none to close. -/
theorem Path.Closed.of_not_mem {text : List Char} (absent : '[' ∉ text) : Closed text := by
  induction text with
  | nil => exact .nil
  | cons c rest ih =>
      obtain ⟨other, absentRest⟩ := not_or.1 (mt List.mem_cons.2 absent)
      exact .plain (Ne.symm other) (ih absentRest)

theorem Path.Reading.next_plain {c : Char} (notBracket : c ≠ '[') (collected : List Char) :
    ∃ done last, (Reading.plain collected).next c = (done, .plain last) := by
  by_cases dot : c = '.'
  · exact ⟨plainKey collected, [], if_pos dot⟩
  · refine ⟨[], c :: collected, ?_⟩
    rw [next, if_neg dot, if_neg notBracket]

/-- A closed text leaves a plain key, perhaps an empty one, to be read on. -/
theorem Path.Closed.read {text : List Char} (closed : Closed text) (collected : List Char) :
    ∃ done last, Path.read (.plain collected) text = (done, .plain last) := by
  induction closed generalizing collected with
  | nil => exact ⟨[], collected, rfl⟩
  | plain notBracket _ ih =>
      obtain ⟨first, middle, step⟩ := Reading.next_plain notBracket collected
      obtain ⟨done, last, run⟩ := ih middle
      refine ⟨first ++ done, last, ?_⟩
      rw [Path.read, step, run]
  | @bracket quote text _ held _ ih =>
      obtain ⟨done, last, run⟩ := ih []
      refine ⟨plainKey collected ++ [.ofHeld quote text] ++ done, last, ?_⟩
      rw [read_append, read_bracket held, run]

/-- After a closed text, what follows is read as after the plain key that the text ends with. -/
theorem Path.Closed.parse_eq {path : String} (closed : Closed path.toList) :
    ∃ done last, parse path = done ++ plainKey last ∧
      ∀ rest : String, parse (path ++ rest) = done ++ steps (.plain last) rest.toList := by
  obtain ⟨done, last, run⟩ := closed.read []
  refine ⟨done, last, ?_, fun rest => ?_⟩
  · have whole := steps_append (.plain []) path.toList []
    rw [List.append_nil, run] at whole
    exact whole
  · rw [parse, String.toList_append, steps_append, run]

theorem Path.Closed.parse_dot {path : String} (closed : Closed path.toList) (other : String) :
    parse (path ++ "." ++ other) = parse path ++ parse other := by
  obtain ⟨done, last, whole, split⟩ := closed.parse_eq
  calc parse (path ++ "." ++ other)
      = done ++ steps (.plain last) ("." ++ other).toList := by rw [String.append_assoc, split]
    _ = done ++ (plainKey last ++ parse other) := by rw [String.toList_append]; rfl
    _ = parse path ++ parse other := by rw [whole, List.append_assoc]

theorem Path.Closed.parse_unclosed {path text : String} (closed : Closed path.toList)
    (unclosed : Unclosed text.toList) :
    parse (path ++ "[" ++ text) = parse path ++ [.key text] := by
  obtain ⟨done, last, whole, split⟩ := closed.parse_eq
  obtain ⟨quote, held, eq, isHeld⟩ := unclosed
  calc parse (path ++ "[" ++ text)
      = done ++ steps (.plain last) ("[" ++ text).toList := by rw [String.append_assoc, split]
    _ = done ++ steps (.plain last) ('[' :: (quote.toList ++ held)) := by
        rw [String.toList_append, eq]
        rfl
    _ = done ++ (plainKey last ++ [.key text]) := by
        rw [steps_unclosed isHeld, ← eq, String.ofList_toList]
    _ = parse path ++ [.key text] := by rw [whole, List.append_assoc]

/-! ## Following a document -/

theorem Doc.follow?_append (doc : Doc) (first second : List Path.Segment) :
    doc.follow? (first ++ second) = (doc.follow? first).bind (·.follow? second) := by
  rw [follow?, List.foldlM_append]
  rfl

/-- No step leads out of `null`. -/
theorem Doc.follow?_null {segments : List Path.Segment} (nonempty : segments ≠ []) :
    Doc.null.follow? segments = none := by
  cases segments with
  | nil => exact (nonempty rfl).elim
  | cons segment rest => cases segment <;> rfl

theorem Doc.lookup?_of_parse {doc : Doc} {path : String} (nonempty : Path.parse path ≠ []) :
    doc.lookup? path = (doc.follow? (Path.parse path)).filter (!·.isNull) := by
  rw [lookup?]
  split
  · next empty => exact (nonempty empty).elim
  · rfl

/-- A value that is `null` on the way leads nowhere, whether it is looked at or not. -/
theorem Doc.bind_follow?_filter {segments : List Path.Segment} (nonempty : segments ≠ [])
    (found : Option Doc) :
    (found.filter (!·.isNull)).bind (·.follow? segments) = found.bind (·.follow? segments) := by
  cases found with
  | none => rfl
  | some value =>
      cases value with
      | null => exact (follow?_null nonempty).symm
      | bool _ | number _ | string _ | array _ | object _ => rfl

theorem Doc.lookup?_of_parse_append {path first second : String}
    (split : Path.parse path = Path.parse first ++ Path.parse second)
    (nonemptyFirst : Path.parse first ≠ []) (nonemptySecond : Path.parse second ≠ [])
    (doc : Doc) : doc.lookup? path = (doc.lookup? first).bind (·.lookup? second) := by
  have nonempty : Path.parse path ≠ [] := by
    rw [split]
    exact List.append_ne_nil_of_left_ne_nil nonemptyFirst _
  have legs (value : Doc) :
      value.lookup? second = (value.follow? (Path.parse second)).filter (!·.isNull) :=
    lookup?_of_parse nonemptySecond
  rw [lookup?_of_parse nonempty, split, follow?_append, ← bind_follow?_filter nonemptySecond,
    lookup?_of_parse nonemptyFirst, funext legs]
  cases (doc.follow? (Path.parse first)).filter (!·.isNull) <;> rfl

/-- **Paths compose** wherever no bracket is open. A dot begins a new path; a bracket that is never
closed makes one key of all the rest, its quote included; and looking a value up along the two
paths at once is looking it up along the first and from there along the second. -/
theorem Path.Closed.composes {path : String} (closed : Closed path.toList) :
    (∀ other, parse (path ++ "." ++ other) = parse path ++ parse other) ∧
      (∀ text : String, Unclosed text.toList →
        parse (path ++ "[" ++ text) = parse path ++ [.key text]) ∧
      ∀ other, parse path ≠ [] → parse other ≠ [] → ∀ root : Doc,
        root.lookup? (path ++ "." ++ other) = (root.lookup? path).bind (·.lookup? other) := by
  refine ⟨closed.parse_dot, fun _ => closed.parse_unclosed, fun other nonempty nonemptyOther => ?_⟩
  exact Doc.lookup?_of_parse_append (closed.parse_dot other) nonempty nonemptyOther

/-- A bracket with a dot and a bracket in it, a bracket that the other quote does not close, and a
path that goes on from a `null`. -/
theorem Path.Closed.composes_samples :
    Closed "a['x.[']".toList ∧
      parse ("a['x.[']" ++ "." ++ "b") = [.key "a", .key "x.[", .key "b"] ∧
      Unclosed "'b\"].c".toList ∧
      parse ("a['x.[']" ++ "[" ++ "'b\"].c") = [.key "a", .key "x.[", .key "'b\"].c"] ∧
      parse "a['x.[']" ≠ [] ∧ parse "b" ≠ [] ∧
      (Doc.object [("a", .object [("x.[", .null)])]).lookup? ("a['x.[']" ++ "." ++ "b") = none := by
  have closed : Closed "a['x.[']".toList :=
    .plain (by decide) (@Closed.bracket (some '\'') "x.[".toList [] (by decide) .nil)
  have unclosed : Unclosed "'b\"].c".toList := ⟨some '\'', "b\"].c".toList, rfl, by decide⟩
  obtain ⟨dot, rest, look⟩ := closed.composes
  refine ⟨closed, dot "b", unclosed, rest _ unclosed, nofun, nofun, ?_⟩
  exact look "b" nofun nofun _

end PortalConfig
