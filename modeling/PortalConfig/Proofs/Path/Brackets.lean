import Mathlib.Data.List.Infix
import PortalConfig.Doc.Path

/-!
# Pieces of a path

A path is read character by character. A piece of it counts only through the steps that it
completes and through what is being read when it ends (`Path.read`, `Path.steps_append`), so plain
keys, dots and brackets can be followed one at a time. While a bracket is open, what is being read
depends on the text held so far alone (`Path.Reading.inside`); a bracket ends at the first closing
mark in its text (`Path.read_bracket`), or swallows the rest of the path (`Path.steps_unclosed`).
-/

namespace PortalConfig

/-! ## Pieces -/

/-- Reads a piece of a path: the steps it completes, and what is being read after it. -/
def Path.read (reading : Reading) : List Char → List Segment × Reading
  | [] => ([], reading)
  | c :: rest => ((reading.next c).1 ++ (read (reading.next c).2 rest).1,
      (read (reading.next c).2 rest).2)

theorem Path.read_append (reading : Reading) (first second : List Char) :
    read reading (first ++ second) =
      ((read reading first).1 ++ (read (read reading first).2 second).1,
        (read (read reading first).2 second).2) := by
  induction first generalizing reading with
  | nil => rfl
  | cons c rest ih => simp only [List.cons_append, read, ih, List.append_assoc]

theorem Path.steps_append (reading : Reading) (first second : List Char) :
    steps reading (first ++ second) =
      (read reading first).1 ++ steps (read reading first).2 second := by
  induction first generalizing reading with
  | nil => rfl
  | cons c rest ih => simp only [List.cons_append, steps, read, ih, List.append_assoc]

/-- Pieces that complete no step are read as one. -/
theorem Path.read_append_of_eq {reading middle last : Reading} {first second : List Char}
    {done : List Segment} (before : read reading first = ([], middle))
    (after : read middle second = (done, last)) :
    read reading (first ++ second) = (done, last) := by
  rw [read_append, before, after, List.nil_append]

/-! ## Plain keys and dots -/

/-- The characters of a plain key: neither a dot nor an opening bracket. -/
def Path.IsPlain (text : List Char) : Prop := ∀ c ∈ text, c ≠ '.' ∧ c ≠ '['

instance : DecidablePred Path.IsPlain := fun text =>
  List.decidableBAll (fun c => c ≠ '.' ∧ c ≠ '[') text

theorem Path.read_plain {text : List Char} (plain : IsPlain text) (collected : List Char) :
    read (.plain collected) text = ([], .plain (text.reverse ++ collected)) := by
  induction text generalizing collected with
  | nil => rfl
  | cons c rest ih =>
      obtain ⟨⟨notDot, notBracket⟩, plainRest⟩ := List.forall_mem_cons.1 plain
      have step : (Reading.plain collected).next c = ([], .plain (c :: collected)) := by
        rw [Reading.next, if_neg notDot, if_neg notBracket]
      rw [read, step, ih plainRest, List.reverse_cons, List.append_assoc]
      rfl

/-- The first dot ends a plain key, and further dots add nothing. -/
theorem Path.read_dots (n : Nat) (collected : List Char) :
    read (.plain collected) (List.replicate (n + 1) '.') = (plainKey collected, .plain []) := by
  induction n generalizing collected with
  | zero => simp [read, Reading.next]
  | succ n ih =>
      have dot : (Reading.plain collected).next '.' = (plainKey collected, .plain []) := rfl
      rw [List.replicate_succ, read, dot, ih]
      exact congrArg (·, _) (List.append_nil _)

/-! ## Brackets -/

/-- The characters that quote the text of a bracket. -/
def Path.IsQuote (c : Char) : Prop := c = '\'' ∨ c = '"'

instance : DecidablePred Path.IsQuote := fun c =>
  inferInstanceAs (Decidable (c = '\'' ∨ c = '"'))

/-- What ends a bracket, behind its opening quote or without one. -/
def Path.closing : Option Char → List Char
  | none => [']']
  | some quote => [quote, ']']

/-- A text that a bracket holds without ending in it. Behind a quote, this quote is nowhere
followed by a closing bracket; without one, there is no closing bracket, and the text does not
begin with what would be read as the quote. -/
def Path.Held : Option Char → List Char → Prop
  | some quote, text => IsQuote quote ∧ ¬ [quote, ']'] <:+: text
  | none, text => (∀ c ∈ text.head?, ¬ IsQuote c) ∧ ']' ∉ text

instance (quote : Option Char) (text : List Char) : Decidable (Path.Held quote text) :=
  match quote with
  | some quote => inferInstanceAs (Decidable (Path.IsQuote quote ∧ ¬ [quote, ']'] <:+: text))
  | none =>
      have : Decidable (∀ c ∈ text.head?, ¬ Path.IsQuote c) := Option.decidableForallMem text.head?
      inferInstanceAs (Decidable ((∀ c ∈ text.head?, ¬ Path.IsQuote c) ∧ ']' ∉ text))

/-- The step written by a bracket. -/
def Path.Segment.ofHeld : Option Char → List Char → Segment
  | none, text => .ofBracket text
  | some _, text => .key (String.ofList text)

/-- A bracket with its text. -/
def Path.bracket (quote : Option Char) (text : List Char) : List Char :=
  '[' :: (quote.toList ++ text ++ closing quote)

/-- What is being read in an open bracket whose text so far stands back to front. -/
def Path.Reading.inside : Option Char → List Char → Reading
  | none, [] => .opened
  | none, c :: rest => .unquoted (c :: rest)
  | some quote, [] => .quoted quote []
  | some quote, c :: rest =>
    if c = quote then .maybeClosed quote rest else .quoted quote (c :: rest)

theorem Path.IsQuote.ne_bracket {c : Char} (quote : IsQuote c) : c ≠ ']' := by
  rcases quote with rfl | rfl <;> decide

/-- One more character in a quoted bracket, unless it closes the bracket. -/
theorem Path.Reading.next_quoted {quote c : Char} {collected : List Char}
    (goesOn : ¬ (collected.head? = some quote ∧ c = ']')) :
    (inside (some quote) collected).next c = ([], inside (some quote) (c :: collected)) := by
  cases collected with
  | nil =>
      by_cases again : c = quote <;> simp [inside, next, again]
  | cons last rest =>
      by_cases pending : last = quote
      · subst pending
        have notClosed : c ≠ ']' := fun closed => goesOn ⟨rfl, closed⟩
        by_cases again : c = last
        · subst again
          simp [inside, next, notClosed]
        · simp [inside, next, notClosed, again]
      · by_cases again : c = quote <;> simp [inside, next, pending, again]

/-- One more character in a bracket without a quote, unless it closes the bracket. -/
theorem Path.Reading.next_bare {c : Char} {collected : List Char} (goesOn : c ≠ ']')
    (unquoted : collected = [] → ¬ IsQuote c) :
    (inside none collected).next c = ([], inside none (c :: collected)) := by
  cases collected with
  | nil =>
      have notQuote : ¬ (c = '\'' ∨ c = '"') := unquoted rfl
      simp [inside, next, notQuote, goesOn]
  | cons last rest => simp [inside, next, goesOn]

/-- Whatever a bracket holds is collected. -/
theorem Path.read_inside {quote : Option Char} {text collected : List Char}
    (held : Held quote (collected.reverse ++ text)) :
    read (.inside quote collected) text = ([], .inside quote (text.reverse ++ collected)) := by
  -- What was collected before stays in the hypothesis: a closing mark may begin there.
  induction text generalizing collected with
  | nil => rfl
  | cons c rest ih =>
      have step : (Reading.inside quote collected).next c = ([], .inside quote (c :: collected)) := by
        cases quote with
        | some quote =>
            obtain ⟨-, unclosed⟩ := held
            refine Reading.next_quoted ?_
            rintro ⟨pending, rfl⟩
            obtain ⟨front, rfl⟩ := List.head?_eq_some_iff.1 pending
            refine unclosed ⟨front.reverse, rest, ?_⟩
            simp
        | none =>
            obtain ⟨unquoted, unclosed⟩ := held
            refine Reading.next_bare ?_ ?_
            · rintro rfl
              exact unclosed (by simp)
            · rintro rfl
              exact unquoted c rfl
      have heldNext : Held quote ((c :: collected).reverse ++ rest) := by
        simpa using held
      rw [read, step, ih heldNext]
      simp

theorem Path.read_opened {quote : Option Char} {text : List Char} (held : Held quote text) :
    read .opened (quote.toList ++ text) = ([], .inside quote text.reverse) := by
  have run : read (.inside quote []) text = ([], .inside quote (text.reverse ++ [])) :=
    read_inside held
  rw [List.append_nil] at run
  cases quote with
  | some quote =>
      have step : Reading.opened.next quote = ([], .quoted quote []) := if_pos held.1
      rw [Option.toList_some, List.singleton_append, read, step]
      exact run
  | none => exact run

/-- The closing mark ends a bracket. -/
theorem Path.read_closing {quote : Option Char} {text : List Char} (held : Held quote text) :
    read (.inside quote text.reverse) (closing quote) = ([.ofHeld quote text], .plain []) := by
  cases quote with
  | none =>
      cases collected : text.reverse with
      | nil =>
          obtain rfl := List.reverse_eq_nil_iff.1 collected
          rfl
      | cons last rest =>
          have whole : (last :: rest).reverse = text := by rw [← collected, List.reverse_reverse]
          simp [closing, read, Reading.inside, Reading.next, Segment.ofHeld, ← whole]
  | some quote =>
      have mark : (Reading.inside (some quote) text.reverse).next quote =
          ([], .inside (some quote) (quote :: text.reverse)) :=
        Reading.next_quoted fun both => held.1.ne_bracket both.2
      have pending : Reading.inside (some quote) (quote :: text.reverse) =
          .maybeClosed quote text.reverse := if_pos rfl
      have last : (Reading.maybeClosed quote text.reverse).next ']' =
          ([.key (String.ofList text.reverse.reverse)], .plain []) := rfl
      rw [closing, read, mark, pending, read, last, List.reverse_reverse]
      rfl

theorem Path.read_bracket {quote : Option Char} {text : List Char} (held : Held quote text)
    (collected : List Char) :
    read (.plain collected) (bracket quote text) =
      (plainKey collected ++ [.ofHeld quote text], .plain []) := by
  have inner : read .opened (quote.toList ++ text ++ closing quote) =
      ([.ofHeld quote text], .plain []) :=
    read_append_of_eq (read_opened held) (read_closing held)
  have opening : (Reading.plain collected).next '[' = (plainKey collected, .opened) := rfl
  rw [bracket, read, opening, inner]

/-- A bracket that is left open makes a key of all that follows it, its quote included. -/
theorem Path.steps_unclosed {quote : Option Char} {text : List Char} (held : Held quote text)
    (collected : List Char) :
    steps (.plain collected) ('[' :: (quote.toList ++ text)) =
      plainKey collected ++ [.key (String.ofList (quote.toList ++ text))] := by
  have finish : (Reading.inside quote text.reverse).finish =
      [.key (String.ofList (quote.toList ++ text))] := by
    cases last : text.reverse with
    | nil =>
        obtain rfl := List.reverse_eq_nil_iff.1 last
        cases quote <;> rfl
    | cons c rest =>
        have whole : (c :: rest).reverse = text := by rw [← last, List.reverse_reverse]
        rw [← whole]
        cases quote with
        | none => rfl
        | some quote =>
            by_cases pending : c = quote <;> simp [Reading.inside, Reading.finish, pending]
  have run := steps_append .opened (quote.toList ++ text) []
  rw [List.append_nil, read_opened held] at run
  change plainKey collected ++ steps .opened (quote.toList ++ text) = _
  rw [run]
  exact congrArg (plainKey collected ++ ·) finish

end PortalConfig
