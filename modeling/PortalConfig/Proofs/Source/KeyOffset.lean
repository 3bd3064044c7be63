import Mathlib.Data.List.TakeWhile
import PortalConfig.Proofs.Source.Offsets

/-!
# Where a reported key stands

The look-up of a key passes the lines that do not assign it. Each of them counts with one byte more
than it is long, so the offset is that of the key less one byte for every carriage return that ends
a passed line (`Source.keyOffset?_located`). What stands behind the header on its own line is looked
through like a line, so a key found there has the header in front of it.
-/

namespace PortalConfig.Source

/-! ## Lines -/

/-- A text is one line, or a line and the text below it. -/
theorem lines_induction {motive : List Char → Prop}
    (last : ∀ line, '\n' ∉ line → motive line)
    (above : ∀ line below, '\n' ∉ line → motive below → motive (line ++ '\n' :: below))
    (text : List Char) : motive text := by
  by_cases ends : '\n' ∈ text
  · obtain ⟨line, below, whole, one⟩ := List.eq_append_cons_of_mem ends
    rw [whole]
    exact above line below one (lines_induction last above below)
  · exact last text ends
termination_by text.length
decreasing_by
  rw [whole, List.length_append, List.length_cons]
  omega

theorem lines_of_not_mem {line : List Char} (one : '\n' ∉ line) :
    lines line = [dropReturn line] := by
  rw [lines, List.splitOn_eq_singleton one, List.map_singleton]

theorem lines_append {line : List Char} (one : '\n' ∉ line) (below : List Char) :
    lines (line ++ '\n' :: below) = dropReturn line :: lines below := by
  rw [lines, List.splitOn_append_cons_self_of_not_mem one, List.map_cons, lines]

/-- The first line of a text and what stands below it are determined. -/
theorem first_line_inj {a b c d : List Char} (one : '\n' ∉ a) (other : '\n' ∉ c)
    (same : a ++ '\n' :: b = c ++ '\n' :: d) : a = c ∧ b = d := by
  have split := congrArg (List.splitOn '\n') same
  rw [List.splitOn_append_cons_self_of_not_mem one,
    List.splitOn_append_cons_self_of_not_mem other] at split
  obtain rfl := (List.cons.inj split).1
  exact ⟨rfl, (List.cons.inj (List.append_cancel_left same)).2⟩

/-- Lines as they stand in a text, each with its end. -/
def ended (passed : List (List Char)) : List Char := passed.flatMap (· ++ ['\n'])

@[simp] theorem ended_nil : ended [] = [] := rfl

@[simp] theorem ended_cons (line : List Char) (passed : List (List Char)) :
    ended (line :: passed) = line ++ '\n' :: ended passed := by
  rw [ended, List.flatMap_cons, List.append_assoc, List.singleton_append, ended]

theorem ended_concat (passed : List (List Char)) (line : List Char) :
    ended (passed ++ [line]) = ended passed ++ line ++ ['\n'] := by
  simp [ended]

/-- How many of the lines end in a carriage return. -/
def returns (passed : List (List Char)) : Nat := passed.countP (·.getLast? = some '\r')

theorem dropReturn_cases (line : List Char) :
    (∃ body, line = body ++ ['\r'] ∧ dropReturn line = body) ∨
      (line.getLast? ≠ some '\r' ∧ dropReturn line = line) := by
  by_cases ends : line.getLast? = some '\r'
  · obtain ⟨body, rfl⟩ := List.getLast?_eq_some_iff.1 ends
    exact .inl ⟨body, rfl, by rw [dropReturn, if_pos ends, List.dropLast_concat]⟩
  · exact .inr ⟨ends, if_neg ends⟩

/-- A line without its carriage return is one byte shorter. -/
theorem byteSize_dropReturn_add_returns (line : List Char) (passed : List (List Char)) :
    byteSize (dropReturn line) + returns (line :: passed) = byteSize line + returns passed := by
  rw [returns, List.countP_cons, ← returns]
  rcases dropReturn_cases line with ⟨body, rfl, short⟩ | ⟨plain, same⟩
  · have one : byteSize ['\r'] = 1 := rfl
    rw [short, byteSize_append, one, List.getLast?_concat, decide_eq_true rfl, if_pos rfl]
    omega
  · rw [same, decide_eq_false plain, if_neg Bool.false_ne_true, Nat.add_zero]

theorem returns_le_byteSize_ended (passed : List (List Char)) :
    returns passed ≤ byteSize (ended passed) := by
  induction passed with
  | nil => exact Nat.le_refl 0
  | cons line passed ih =>
      have shorter := byteSize_dropReturn_add_returns line passed
      rw [ended_cons, byteSize_append, byteSize_cons]
      omega

/-! ## Lines that assign a key -/

/-- The white space in front of a line. -/
def indent (line : List Char) : List Char := line.takeWhile isBlank

theorem indent_append_trimStart (line : List Char) : indent line ++ Text.trimStart line = line :=
  List.takeWhile_append_dropWhile

theorem blank_indent (line : List Char) : ∀ c ∈ indent line, isBlank c = true :=
  fun _ mem => List.mem_takeWhile_imp mem

/-- Whether a line assigns a key: behind the white space in front of it stand the key and a
character that may follow one. -/
def Assigns (field line : List Char) : Prop :=
  ∃ mark rest, isKeyEnd mark = true ∧ Text.trimStart line = field ++ mark :: rest

theorem lineOffset?_eq_some_iff {field line : List Char} {offset : Nat} :
    lineOffset? field line = some offset ↔
      Assigns field line ∧ byteSize (indent line) = offset := by
  have size : byteSize line - byteSize (Text.trimStart line) = byteSize (indent line) := by
    have whole := congrArg byteSize (indent_append_trimStart line)
    rw [byteSize_append] at whole
    omega
  simp only [lineOffset?]
  rw [size]
  constructor
  · intro located
    split at located
    next mark rest starts =>
      obtain ⟨ends, same⟩ := Option.ite_none_right_eq_some.1 located
      have trimmed := List.isPrefixOf?_eq_some_iff_append_eq.1 starts
      exact ⟨⟨mark, rest, ends, trimmed.symm⟩, Option.some.inj same⟩
    next => cases located
  · rintro ⟨⟨mark, rest, ends, trimmed⟩, rfl⟩
    rw [List.isPrefixOf?_eq_some_iff_append_eq.2 trimmed.symm]
    exact if_pos ends

theorem trimStart_append_return (body : List Char) :
    Text.trimStart (body ++ ['\r']) =
      if Text.trimStart body = [] then [] else Text.trimStart body ++ ['\r'] := by
  have blank : ['\r'].dropWhile isBlank = [] := by decide
  rw [Text.trimStart, List.dropWhile_append, blank, ← Text.trimStart]
  simp only [List.isEmpty_iff]

theorem assigns_append_return {field body : List Char} :
    Assigns field (body ++ ['\r']) ↔ Assigns field body := by
  constructor
  · rintro ⟨mark, rest, ends, trimmed⟩
    rw [trimStart_append_return] at trimmed
    split at trimmed
    · simp at trimmed
    -- the return is the last character behind the key, and no mark
    rcases rest.eq_nil_or_concat' with rfl | ⟨rest, c, rfl⟩
    · have mark_eq : '\r' = mark := by simpa using (List.append_inj' trimmed rfl).2
      subst mark_eq
      exact absurd ends (by decide)
    · have cut : Text.trimStart body ++ ['\r'] = (field ++ mark :: rest) ++ [c] := by
        rw [trimmed, List.append_assoc, List.cons_append]
      exact ⟨mark, rest, ends, (List.append_inj' cut rfl).1⟩
  · rintro ⟨mark, rest, ends, trimmed⟩
    refine ⟨mark, rest ++ ['\r'], ends, ?_⟩
    rw [trimStart_append_return, if_neg (by simp [trimmed]), trimmed, List.append_assoc,
      List.cons_append]

theorem indent_append_return {field body : List Char} (assigns : Assigns field body) :
    indent (body ++ ['\r']) = indent body := by
  obtain ⟨mark, rest, -, trimmed⟩ := assigns
  have whole := indent_append_trimStart (body ++ ['\r'])
  rw [trimStart_append_return, if_neg (by simp [trimmed]), ← List.append_assoc] at whole
  have cut : indent (body ++ ['\r']) ++ Text.trimStart body = indent body ++ Text.trimStart body :=
    (List.append_cancel_right whole).trans (indent_append_trimStart body).symm
  exact List.append_cancel_right cut

/-- The carriage return at its end makes no difference to where a line assigns a key. -/
theorem lineOffset?_dropReturn (field line : List Char) :
    lineOffset? field (dropReturn line) = lineOffset? field line := by
  rcases dropReturn_cases line with ⟨body, rfl, short⟩ | ⟨-, same⟩
  · rw [short]
    ext offset
    rw [lineOffset?_eq_some_iff, lineOffset?_eq_some_iff, assigns_append_return]
    refine and_congr_right fun assigns => ?_
    rw [indent_append_return assigns]
  · rw [same]

theorem lineOffset?_eq_none_iff {field line : List Char} :
    lineOffset? field line = none ↔ ¬ Assigns field line := by
  rw [Option.eq_none_iff_forall_ne_some]
  simp only [ne_eq, lineOffset?_eq_some_iff]
  constructor
  · intro never assigns
    exact never _ ⟨assigns, rfl⟩
  · rintro not offset ⟨assigns, -⟩
    exact not assigns

/-! ## The first line that assigns a key -/

/-- What may follow a whole line: nothing, or the line's end. -/
def EndsLine (below : List Char) : Prop := below = [] ∨ ∃ more, below = '\n' :: more

/-- The first line of a text that assigns a key, and the lines above it. -/
structure FirstAssigned (field text : List Char) (passed : List (List Char)) (line : List Char) :
    Prop where
  whole : ∃ below, text = ended passed ++ (line ++ below) ∧ EndsLine below
  passed_one : ∀ above ∈ passed, '\n' ∉ above
  line_one : '\n' ∉ line
  unassigned : ∀ above ∈ passed, ¬ Assigns field above
  assigns : Assigns field line

section

variable {field text line : List Char} {passed : List (List Char)}

theorem firstAssigned_iff_of_not_mem (one : '\n' ∉ text) :
    FirstAssigned field text passed line ↔ passed = [] ∧ line = text ∧ Assigns field line := by
  constructor
  · rintro ⟨⟨below, rfl, ends⟩, -, -, -, assigns⟩
    have no_passed : passed = [] := by
      cases passed with
      | nil => rfl
      | cons above passed => simp at one
    subst no_passed
    rcases ends with rfl | ⟨more, rfl⟩
    · exact ⟨rfl, (List.append_nil line).symm, assigns⟩
    · simp at one
  · rintro ⟨rfl, rfl, assigns⟩
    exact ⟨⟨[], (List.append_nil line).symm, .inl rfl⟩, by simp, one, by simp, assigns⟩

theorem firstAssigned_append_iff {first below : List Char} (one : '\n' ∉ first) :
    FirstAssigned field (first ++ '\n' :: below) passed line ↔
      passed = [] ∧ line = first ∧ Assigns field first ∨
        ∃ rest, passed = first :: rest ∧ ¬ Assigns field first ∧
          FirstAssigned field below rest line := by
  constructor
  · rintro ⟨⟨after, whole, ends⟩, passed_one, line_one, unassigned, assigns⟩
    cases passed with
    | nil =>
        refine .inl ⟨rfl, ?_⟩
        rcases ends with rfl | ⟨more, rfl⟩
        · rw [List.append_nil, ended_nil, List.nil_append] at whole
          exact absurd (by simp [← whole]) line_one
        · obtain ⟨rfl, -⟩ := first_line_inj one line_one whole
          exact ⟨rfl, assigns⟩
    | cons above rest =>
        rw [ended_cons, List.append_assoc, List.cons_append] at whole
        have above_one := passed_one above List.mem_cons_self
        obtain ⟨rfl, rfl⟩ := first_line_inj one above_one whole
        exact .inr ⟨rest, rfl, unassigned first List.mem_cons_self, ⟨after, rfl, ends⟩,
          (List.forall_mem_cons.1 passed_one).2, line_one, (List.forall_mem_cons.1 unassigned).2,
          assigns⟩
  · rintro (⟨rfl, rfl, assigns⟩ | ⟨rest, rfl, not, ⟨after, rfl, ends⟩, rest_one, line_one,
      unassigned, assigns⟩)
    · exact ⟨⟨'\n' :: below, rfl, .inr ⟨below, rfl⟩⟩, by simp, one, by simp, assigns⟩
    · exact ⟨⟨after, by rw [ended_cons, List.append_assoc, List.cons_append], ends⟩,
        List.forall_mem_cons.2 ⟨one, rest_one⟩, line_one,
        List.forall_mem_cons.2 ⟨not, unassigned⟩, assigns⟩

theorem offsetAmong?_cons_eq_some_iff {rest : List (List Char)} {start offset : Nat} :
    offsetAmong? field start (dropReturn line :: rest) = some offset ↔
      Assigns field line ∧ start + byteSize (indent line) = offset ∨
        ¬ Assigns field line ∧
          offsetAmong? field (start + byteSize (dropReturn line) + 1) rest = some offset := by
  rw [offsetAmong?, lineOffset?_dropReturn]
  cases located : lineOffset? field line with
  | some column =>
      obtain ⟨assigns, rfl⟩ := lineOffset?_eq_some_iff.1 located
      simp [assigns]
  | none => simp [lineOffset?_eq_none_iff.1 located]

/-- The look-up among the lines of a text finds the first one that assigns the key. -/
theorem offsetAmong?_lines_eq_some_iff {start offset : Nat} :
    offsetAmong? field start (lines text) = some offset ↔
      ∃ passed line, FirstAssigned field text passed line ∧
        offset + returns passed = start + byteSize (ended passed ++ indent line) := by
  induction text using lines_induction generalizing start with
  | last text one =>
      simp only [firstAssigned_iff_of_not_mem one]
      rw [lines_of_not_mem one, offsetAmong?_cons_eq_some_iff]
      constructor
      · rintro (⟨assigns, rfl⟩ | ⟨-, none⟩)
        · exact ⟨[], text, ⟨rfl, rfl, assigns⟩, rfl⟩
        · cases none
      · rintro ⟨_, _, ⟨rfl, rfl, assigns⟩, sum⟩
        exact .inl ⟨assigns, sum.symm⟩
  | above first below one ih =>
      simp only [firstAssigned_append_iff one]
      rw [lines_append one, offsetAmong?_cons_eq_some_iff, ih]
      -- the look-up counts the passed line without its return, and one byte for its end
      have sums : ∀ rest tail, offset + returns rest =
          start + byteSize (dropReturn first) + 1 + byteSize (ended rest ++ tail) ↔
            offset + returns (first :: rest) = start + byteSize (ended (first :: rest) ++ tail) := by
        intro rest tail
        have shorter := byteSize_dropReturn_add_returns first rest
        have one_byte : '\n'.utf8Size = 1 := rfl
        rw [ended_cons, byteSize_append, byteSize_append, byteSize_append, byteSize_cons]
        omega
      constructor
      · rintro (⟨assigns, rfl⟩ | ⟨not, rest, line, assigned, sum⟩)
        · exact ⟨[], first, .inl ⟨rfl, rfl, assigns⟩, rfl⟩
        · exact ⟨first :: rest, line, .inr ⟨rest, rfl, not, assigned⟩, (sums rest _).1 sum⟩
      · rintro ⟨_, line, ⟨rfl, rfl, assigns⟩ | ⟨rest, rfl, not, assigned⟩, sum⟩
        · exact .inl ⟨assigns, sum.symm⟩
        · exact .inr ⟨not, rest, line, assigned, (sums rest _).2 sum⟩

end

/-! ## Headers -/

/-- The first place where a pattern occurs in a text. -/
def FirstOccurrence (pattern text before after : List Char) : Prop :=
  text = before ++ (pattern ++ after) ∧
    ∀ earlier later, text = earlier ++ (pattern ++ later) → before.length ≤ earlier.length

section

variable {pattern text before after : List Char}

theorem firstOccurrence_nil_iff :
    FirstOccurrence pattern text [] after ↔ text = pattern ++ after :=
  ⟨fun first => first.1, fun starts => ⟨starts, fun _ _ _ => Nat.zero_le _⟩⟩

theorem firstOccurrence_cons_iff {c d : Char} :
    FirstOccurrence pattern (c :: text) (d :: before) after ↔
      d = c ∧ (∀ rest, pattern ++ rest ≠ c :: text) ∧ FirstOccurrence pattern text before after := by
  constructor
  · rintro ⟨whole, least⟩
    obtain ⟨rfl, tail⟩ := List.cons.inj whole
    refine ⟨rfl, fun rest starts => ?_, tail, fun earlier later occurs => ?_⟩
    · exact absurd (least [] rest starts.symm) (by simp)
    · have shorter := least (c :: earlier) later (by rw [occurs, List.cons_append])
      simpa using shorter
  · rintro ⟨rfl, not, whole, least⟩
    refine ⟨by rw [whole, List.cons_append], fun earlier later occurs => ?_⟩
    cases earlier with
    | nil => exact absurd occurs.symm (not later)
    | cons c earlier =>
        have shorter := least earlier later (List.cons.inj occurs).2
        simpa using shorter

theorem isPrefixOf?_eq_none_iff :
    pattern.isPrefixOf? text = none ↔ ∀ rest, pattern ++ rest ≠ text := by
  simp [Option.eq_none_iff_forall_ne_some]

/-- The search for a pattern finds its first occurrence. -/
theorem after?_eq_some_iff {offset : Nat} :
    after? pattern text = some (offset, after) ↔
      ∃ before, FirstOccurrence pattern text before after ∧
        byteSize (before ++ pattern) = offset := by
  fun_induction after? pattern text generalizing offset after with
  | case1 text rest starts =>
      have whole := List.isPrefixOf?_eq_some_iff_append_eq.1 starts
      constructor
      · intro found
        obtain ⟨rfl, rfl⟩ := Prod.mk.inj (Option.some.inj found)
        exact ⟨[], firstOccurrence_nil_iff.2 whole.symm, rfl⟩
      · rintro ⟨before, first, rfl⟩
        have at_start : before = [] :=
          List.length_eq_zero_iff.1 (Nat.le_zero.1 (first.2 [] rest whole.symm))
        subst at_start
        have rest_eq := List.append_cancel_left (whole.trans first.1)
        rw [rest_eq, List.nil_append]
  | case2 not =>
      constructor
      · intro found
        cases found
      · rintro ⟨before, first, -⟩
        have empty := List.append_eq_nil_iff.1 first.1.symm
        exact absurd empty.2 (isPrefixOf?_eq_none_iff.1 not after)
  | case3 c rest not ih =>
      have elsewhere := isPrefixOf?_eq_none_iff.1 not
      constructor
      · intro found
        obtain ⟨⟨start, found_after⟩, deeper, same⟩ := Option.map_eq_some_iff.1 found
        obtain ⟨rfl, rfl⟩ := Prod.mk.inj same
        obtain ⟨before, first, rfl⟩ := ih.1 deeper
        refine ⟨c :: before, firstOccurrence_cons_iff.2 ⟨rfl, elsewhere, first⟩, ?_⟩
        rw [List.cons_append, byteSize_cons, Nat.add_comm]
      · rintro ⟨before, first, rfl⟩
        cases before with
        | nil => exact absurd (firstOccurrence_nil_iff.1 first).symm (elsewhere after)
        | cons d before =>
            obtain ⟨rfl, -, deeper⟩ := firstOccurrence_cons_iff.1 first
            rw [ih.2 ⟨before, deeper, rfl⟩, Option.map_some, List.cons_append, byteSize_cons,
              Nat.add_comm]

end

/-! ## The look-up -/

/-- The header of a section. -/
def header (name : String) : List Char := '[' :: name.toList ++ [']']

/-- The part of a text that the look-up goes through, and what stands before it: nothing without a
section, and otherwise the text up to the end of the first header of the section. -/
inductive Opening : List Char → List String → List Char → List Char → Prop where
  | whole (text : List Char) : Opening text [] [] text
  | below {text before after : List Char} {name : String} {inner : List String}
      (first : FirstOccurrence (header name) text before after) :
      Opening text (name :: inner) (before ++ header name) after

theorem Opening.append_eq {content opening text : List Char} {path : List String}
    (opens : Opening content path opening text) : opening ++ text = content := by
  cases opens with
  | whole => rfl
  | below first => rw [first.1, List.append_assoc]

/-- The look-up of a key finds the first line behind the opening that assigns it. The offset is that
of the key there, less one for every carriage return that ends a line in between. -/
theorem keyOffset?_eq_some_iff {content field : String} {path : List String} {offset : Nat} :
    keyOffset? content path field = some offset ↔
      ∃ opening text passed line, Opening content.toList path opening text ∧
        FirstAssigned field.toList text passed line ∧
        offset + returns passed = byteSize (opening ++ (ended passed ++ indent line)) := by
  cases path with
  | nil =>
      rw [keyOffset?, offsetAmong?_lines_eq_some_iff]
      constructor
      · rintro ⟨passed, line, assigned, sum⟩
        exact ⟨[], content.toList, passed, line, .whole _, assigned, by rw [sum, Nat.zero_add]; rfl⟩
      · rintro ⟨_, _, passed, line, ⟨⟩, assigned, sum⟩
        exact ⟨passed, line, assigned, by rw [sum, Nat.zero_add]; rfl⟩
  | cons name inner =>
      have search : keyOffset? content (name :: inner) field =
          (after? (header name) content.toList).bind fun found =>
            offsetAmong? field.toList found.1 (lines found.2) := rfl
      rw [search, Option.bind_eq_some_iff]
      constructor
      · rintro ⟨⟨start, text⟩, found, among⟩
        obtain ⟨before, first, rfl⟩ := after?_eq_some_iff.1 found
        obtain ⟨passed, line, assigned, sum⟩ := offsetAmong?_lines_eq_some_iff.1 among
        exact ⟨_, text, passed, line, .below first, assigned,
          sum.trans (byteSize_append _ _).symm⟩
      · rintro ⟨_, text, passed, line, opens, assigned, sum⟩
        cases opens with | below first =>
        rw [byteSize_append] at sum
        exact ⟨(_, text), after?_eq_some_iff.2 ⟨_, first, rfl⟩,
          offsetAmong?_lines_eq_some_iff.2 ⟨passed, line, assigned, sum⟩⟩

/-- The bracket that closes a header is on the line of what stands behind it. -/
theorem bracket_mem_lastLine_header (before : List Char) (name : String) :
    ']' ∈ lastLine (before ++ header name) := by
  rw [header, ← List.append_assoc, lastLine_append_of_not_mem (by decide)]
  exact List.mem_concat_self

/-- A key that is found has white space before it on its line, unless it stands behind the header
on the header's own line. -/
theorem blank_lastLine_iff {content opening text line : List Char} {path : List String}
    {passed : List (List Char)} (opens : Opening content path opening text) (one : '\n' ∉ line) :
    (∀ c ∈ lastLine (opening ++ (ended passed ++ indent line)), isBlank c = true) ↔
      path = [] ∨ passed ≠ [] := by
  have one_indent : '\n' ∉ indent line := fun mem => one (List.takeWhile_subset _ mem)
  rw [← List.append_assoc, lastLine_append_of_not_mem one_indent, List.forall_mem_append,
    and_iff_left (blank_indent line)]
  rcases List.eq_nil_or_concat' passed with rfl | ⟨above, last, rfl⟩
  · rw [ended_nil, List.append_nil]
    cases opens with
    | whole => simp [lastLine]
    | below first =>
        simp only [reduceCtorEq, ne_eq, not_true_eq_false, or_self, iff_false]
        intro blank
        have bracket_blank := blank ']' (bracket_mem_lastLine_header _ _)
        exact absurd bracket_blank (by decide)
  · rw [ended_concat, ← List.append_assoc, lastLine_append_newline]
    simp

/-- Where a key that is found stands. The line is the first one behind the opening that assigns the
key. With every carriage return that ends a passed line, the offset falls short of the key by one
byte more; it never falls back into the opening. -/
theorem keyOffset?_located {content field : String} {path : List String} {offset : Nat}
    (found : keyOffset? content path field = some offset) :
    ∃ opening text passed line, Opening content.toList path opening text ∧
      FirstAssigned field.toList text passed line ∧
      byteSize opening ≤ offset ∧
      BytesAt content (offset + returns passed) field ∧
      (OnlyBlankBefore content (offset + returns passed) ↔ path = [] ∨ passed ≠ []) := by
  obtain ⟨opening, text, passed, line, opens, assigned, sum⟩ := keyOffset?_eq_some_iff.1 found
  obtain ⟨below, whole, -⟩ := assigned.whole
  obtain ⟨mark, rest, -, trimmed⟩ := assigned.assigns
  have split : content.toList = opening ++ (ended passed ++ indent line) ++
      (field.toList ++ (mark :: rest ++ below)) := by
    calc content.toList = opening ++ (ended passed ++ (line ++ below)) := by
          rw [← opens.append_eq, whole]
      _ = opening ++ (ended passed ++ (indent line ++ Text.trimStart line ++ below)) := by
          rw [indent_append_trimStart]
      _ = _ := by simp [trimmed]
  refine ⟨opening, text, passed, line, opens, assigned, ?_, ?_, ?_⟩
  · have few := returns_le_byteSize_ended passed
    rw [byteSize_append, byteSize_append] at sum
    omega
  · rw [sum]
    exact bytesAt_byteSize split
  · rw [sum, onlyBlankBefore_byteSize_iff split]
    exact blank_lastLine_iff opens assigned.line_one

/-- A section's key behind the first header, two lines below it. -/
theorem keyOffset?_located_second_line :
    keyOffset? "[s]\nk = 1\n\tkey = 2" ["s"] "key" = some 11 ∧
      ∃ opening text passed line,
        Opening "[s]\nk = 1\n\tkey = 2".toList ["s"] opening text ∧
        FirstAssigned "key".toList text passed line ∧
        byteSize opening ≤ 11 ∧
        BytesAt "[s]\nk = 1\n\tkey = 2" (11 + returns passed) "key" ∧
        (OnlyBlankBefore "[s]\nk = 1\n\tkey = 2" (11 + returns passed) ↔
          ["s"] = [] ∨ passed ≠ []) := by
  have found : keyOffset? "[s]\nk = 1\n\tkey = 2" ["s"] "key" = some 11 := by decide
  exact ⟨found, keyOffset?_located found⟩

/-- One carriage return moves the span off the key, and behind a header the key is reported with the
header in front of it. -/
theorem keyOffset?_beside_key :
    (keyOffset? "a = 1\r\nkey = 2\r\n" [] "key" = some 6 ∧
        ¬ BytesAt "a = 1\r\nkey = 2\r\n" 6 "key") ∧
      keyOffset? "[s] k = 1" ["s"] "k" = some 4 ∧ ¬ OnlyBlankBefore "[s] k = 1" 4 := by
  refine ⟨⟨by decide, ?_⟩, by decide, ?_⟩
  · unfold BytesAt
    decide
  · have split : "[s] k = 1".toList = "[s] ".toList ++ "k = 1".toList := by decide
    rw [show 4 = byteSize "[s] ".toList from rfl, onlyBlankBefore_byteSize_iff split]
    intro blank
    have bracket_blank := blank ']' (by decide)
    exact absurd bracket_blank (by decide)

end PortalConfig.Source
