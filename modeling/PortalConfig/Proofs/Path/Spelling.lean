import PortalConfig.Proofs.Numeral
import PortalConfig.Proofs.Path.Brackets

/-!
# Spellings of a path

A step can be written in several ways: between brackets, quoted or not, or as a plain key, which
runs on until a dot or a bracket ends it. `Path.Written` says which texts write a list of steps,
whatever spelling each of them takes and however many dots stand between them; reading such a text
gives back the steps (`Path.parse_written`).
-/

namespace PortalConfig

/-- The ways to write a step between brackets. An unquoted key must not pass for a numeral. -/
inductive Path.Bracketed : Segment → List Char → Prop
  | index {n : Nat} : n < Nat.pow 2 64 → Bracketed (.index n) (bracket none (Nat.toDigits 10 n))
  | quoted {quote : Char} {key : String} :
    Held (some quote) key.toList → Bracketed (.key key) (bracket (some quote) key.toList)
  | bare {key : String} : Held none key.toList → position? key.toList = none →
    Bracketed (.key key) (bracket none key.toList)

/-- The texts that write a list of steps, each after some dots. Two plain keys in a row need a dot
between them; `afterPlain` says that a plain key stands right before the text. -/
inductive Path.Written : (afterPlain : Bool) → List Segment → List Char → Prop
  | done {afterPlain : Bool} : Written afterPlain [] []
  | bracketed {afterPlain : Bool} {segment : Segment} {rest : List Segment}
    {text tail : List Char} (dots : Nat) :
    Bracketed segment text → Written false rest tail →
    Written afterPlain (segment :: rest) (List.replicate dots '.' ++ (text ++ tail))
  | plain {afterPlain : Bool} {key : String} {rest : List Segment} {tail : List Char}
    (dots : Nat) :
    key ≠ "" → IsPlain key.toList → (afterPlain = true → 0 < dots) → Written true rest tail →
    Written afterPlain (.key key :: rest) (List.replicate dots '.' ++ (key.toList ++ tail))

/-! ## One step -/

theorem Path.position?_toDigits {n : Nat} (below : n < Nat.pow 2 64) :
    position? (Nat.toDigits 10 n) = some n :=
  Numeral.readUnsigned?_toDigits below

/-- Digits neither quote nor close a bracket. -/
theorem Path.held_toDigits (n : Nat) : Held none (Nat.toDigits 10 n) := by
  refine ⟨fun c first quote => ?_, fun closed => ?_⟩
  · have digit : c.isDigit = true :=
      Numeral.isDigit_of_mem_toDigits (List.mem_of_mem_head? first)
    rcases quote with rfl | rfl <;> cases digit
  · cases (Numeral.isDigit_of_mem_toDigits closed : ']'.isDigit = true)

/-- A step between brackets is read whatever plain key stands before it. -/
theorem Path.Bracketed.read {segment : Segment} {text : List Char}
    (written : Bracketed segment text) (collected : List Char) :
    Path.read (.plain collected) text = (plainKey collected ++ [segment], .plain []) := by
  cases written with
  | @index n below =>
      have step : Segment.ofHeld none (Nat.toDigits 10 n) = .index n := by
        rw [Segment.ofHeld, Segment.ofBracket, position?_toDigits below]
      rw [read_bracket (held_toDigits n), step]
  | @quoted quote key held =>
      have step : Segment.ofHeld (some quote) key.toList = .key key :=
        congrArg Segment.key String.ofList_toList
      rw [read_bracket held, step]
  | @bare key held notIndex =>
      have step : Segment.ofHeld none key.toList = .key key := by
        rw [Segment.ofHeld, Segment.ofBracket, notIndex, String.ofList_toList]
      rw [read_bracket held, step]

theorem Path.plainKey_toList {key : String} (nonempty : key ≠ "") :
    plainKey key.toList.reverse = [.key key] := by
  have some : key.toList.reverse.isEmpty = false := by
    simpa using nonempty
  rw [plainKey, some, List.reverse_reverse, String.ofList_toList]
  rfl

/-- Dots end the plain key before them, and none are needed where there is none. -/
theorem Path.steps_after_dots {dots : Nat} {collected : List Char}
    (ended : dots = 0 → collected = []) (text : List Char) :
    steps (.plain collected) (List.replicate dots '.' ++ text) =
      plainKey collected ++ steps (.plain []) text := by
  cases dots with
  | zero =>
      obtain rfl := ended rfl
      rfl
  | succ n => rw [steps_append, read_dots]

/-! ## Lists of steps -/

/-- What stands before a written path is a plain key only where the path is written for that. -/
theorem Path.Written.steps {afterPlain : Bool} {segments : List Segment} {text : List Char}
    (written : Written afterPlain segments text) {collected : List Char}
    (before : afterPlain = false → collected = []) :
    Path.steps (.plain collected) text = plainKey collected ++ segments := by
  -- The plain key before the text is still being read, so it varies in the induction.
  induction written generalizing collected with
  | done => exact (List.append_nil _).symm
  | @bracketed _ segment rest text tail dots step _ ih =>
      have afterText (collected : List Char) :
          Path.steps (.plain collected) (text ++ tail) = plainKey collected ++ segment :: rest := by
        rw [steps_append, step.read, ih fun _ => rfl, List.append_assoc]
        rfl
      cases dots with
      | zero => exact afterText collected
      | succ n =>
          have some : n + 1 = 0 → collected = [] := fun none => (Nat.succ_ne_zero n none).elim
          rw [steps_after_dots some, afterText]
          rfl
  | @plain afterPlain key rest tail dots nonempty plain separated _ ih =>
      have ended : dots = 0 → collected = [] := by
        rintro rfl
        refine before (Bool.eq_false_iff.2 fun after => ?_)
        exact Nat.lt_irrefl 0 (separated after)
      rw [steps_after_dots ended, steps_append, read_plain plain, List.append_nil, List.nil_append,
        ih nofun, plainKey_toList nonempty]
      rfl

/-- **Reading undoes writing**, in every mix of spellings: whatever text writes a list of steps is
read as that list. -/
theorem Path.parse_written {segments : List Segment} {path : String}
    (written : Written false segments path.toList) : parse path = segments :=
  written.steps fun _ => rfl

/-- Every spelling once, with quotes, brackets and dots inside of keys and around them. -/
theorem Path.parse_written_sample :
    Written false
        [.key "metadata", .key "a.b]", .key "it's", .key "", .index 7, .key "+", .key "x]", .key "y"]
        "..metadata.[\"a.b]\"]['it's'][]..[7][+]x]...y".toList ∧
      parse "..metadata.[\"a.b]\"]['it's'][]..[7][+]x]...y" =
        [.key "metadata", .key "a.b]", .key "it's", .key "", .index 7, .key "+", .key "x]",
          .key "y"] := by
  have written : Written false
      [.key "metadata", .key "a.b]", .key "it's", .key "", .index 7, .key "+", .key "x]", .key "y"]
      "..metadata.[\"a.b]\"]['it's'][]..[7][+]x]...y".toList :=
    .plain 2 (by decide) (by decide) nofun <|
    .bracketed 1 (.quoted (by decide)) <|
    .bracketed 0 (.quoted (by decide)) <|
    .bracketed 0 (.bare (by decide) rfl) <|
    .bracketed 2 (.index (by decide)) <|
    .bracketed 0 (.bare (by decide) rfl) <|
    .plain 0 (by decide) (by decide) nofun <|
    .plain 3 (by decide) (by decide) (fun _ => by decide) .done
  exact ⟨written, parse_written written⟩

end PortalConfig
