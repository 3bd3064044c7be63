import PortalConfig.Time.Reading

/-!
# What can be read

A sixtieth second can only be read as the last one of its minute: an instant that was read is
regular (`Timestamp.regular_of_read?`). A reader is judged by the values that it may yield, through
its parts.
-/

namespace PortalConfig

/-- A fraction of a second or more belongs to the last second of a minute. -/
def TimeOfDay.Regular (time : TimeOfDay) : Prop :=
  time.nanos < 2 * 1000000000 ∧ (1000000000 ≤ time.nanos → time.second = 59)

/-- A fraction of a second or more belongs to the last second of a minute. -/
def Instant.Regular (instant : Instant) : Prop :=
  instant.nanos < 2 * 1000000000 ∧ (1000000000 ≤ instant.nanos → instant.seconds % 60 = 59)

theorem TimeOfDay.regular_of_ofNumbers? {hour minute second nanos : Nat} {time : TimeOfDay}
    (found : ofNumbers? hour minute second nanos = some time) : time.Regular := by
  rw [ofNumbers?] at found
  split at found
  · rename_i inRange
    split at found
    · cases found
      exact ⟨Nat.lt_trans inRange.2.2 (by decide),
        fun leap => absurd inRange.2.2 (Nat.not_lt_of_le leap)⟩
    · split at found
      · cases found
        exact ⟨by dsimp only; omega, fun _ => rfl⟩
      · cases found
  · cases found

/-- Clocks differ by whole minutes. -/
theorem Instant.regular_ofLocal (date : CivilDate) {time : TimeOfDay} (regular : time.Regular)
    {offset minutes : Int} (whole : offset = minutes * 60) :
    (ofLocal date time offset).Regular := by
  refine ⟨regular.1, fun leap => ?_⟩
  have second : time.second = 59 := regular.2 leap
  simp only [ofLocal, TimeOfDay.toSeconds]
  omega

namespace Timestamp

/-! ## Readers by their values -/

/-- Every value that the reader gives has the property. -/
def Yields {α : Type} (Property : α → Prop) (reader : Reader α) : Prop :=
  ∀ text value rest, reader text = some (value, rest) → Property value

variable {α β : Type} {Property : α → Prop}

theorem Yields.pure {value : α} (holds : Property value) :
    Yields Property (Pure.pure value : Reader α) := by
  intro text value' rest result
  cases result
  exact holds

theorem Yields.lift {option : Option α} (holds : ∀ value, option = some value → Property value) :
    Yields Property (StateT.lift option : Reader α) := by
  intro text value rest result
  cases option with
  | none => cases result
  | some found =>
      cases result
      exact holds value rfl

theorem Yields.bind {Earlier : β → Prop} {reader : Reader β} {next : β → Reader α}
    (earlier : Yields Earlier reader) (later : ∀ value, Earlier value → Yields Property (next value)) :
    Yields Property (reader >>= next) := by
  intro text value rest result
  change (reader text).bind (fun read => next read.1 read.2) = some (value, rest) at result
  obtain ⟨⟨first, middle⟩, read, result⟩ := Option.bind_eq_some_iff.1 result
  exact later first (earlier text first middle read) middle value rest result

theorem Yields.ite {Holds : Prop} [Decidable Holds] {reader other : Reader α}
    (first : Yields Property reader) (second : Yields Property other) :
    Yields Property (if Holds then reader else other) := by
  split
  · exact first
  · exact second

/-- A first reader that does not matter. -/
theorem Yields.after {reader : Reader β} {next : β → Reader α}
    (later : ∀ value, Yields Property (next value)) : Yields Property (reader >>= next) :=
  have earlier : Yields (fun _ => True) reader := fun _ _ _ _ => trivial
  earlier.bind fun value _ => later value

/-! ## Timestamps -/

/-- Whole minutes. -/
theorem yields_offset : Yields (fun seconds => ∃ minutes : Int, seconds = minutes * 60) offset := by
  refine .after fun sign => .ite (.pure ⟨0, rfl⟩) ?_
  refine .after fun hours => .after fun _ => .after fun minutes => .after fun _ => .pure ?_
  split
  · exact ⟨hours * 60 + minutes, by omega⟩
  · exact ⟨-(hours * 60 + minutes), by omega⟩

theorem yields_time : Yields TimeOfDay.Regular time := by
  refine .after fun hour => .after fun _ => .after fun minute => .after fun _ =>
    .after fun second => .after fun nanos => .lift fun time found => ?_
  exact TimeOfDay.regular_of_ofNumbers? found

theorem yields_internet : Yields Instant.Regular internet := by
  -- The date and the colons, up to the offset.
  refine .after fun year => .after fun _ => .after fun month => .after fun _ => .after fun day =>
    .after fun _ => .after fun hour => .after fun _ => .after fun minute => .after fun _ =>
    .after fun second => .after fun nanos => ?_
  refine .bind yields_offset fun offset ⟨minutes, whole⟩ => .after fun _ => .after fun date => ?_
  refine .bind (.lift fun time found => TimeOfDay.regular_of_ofNumbers? found) fun time regular => ?_
  exact .pure (Instant.regular_ofLocal date regular whole)

theorem yields_dateTime (separator : Reader Unit) :
    Yields Instant.Regular (dateTime separator) := by
  refine .after fun date => .after fun _ => .bind yields_time fun time regular => .after fun _ => ?_
  exact .pure (Instant.regular_ofLocal date regular (Int.zero_mul 60).symm)

theorem yields_dateOnly : Yields Instant.Regular dateOnly := by
  have regular : TimeOfDay.midnight.Regular := ⟨by decide, fun leap => absurd leap (by decide)⟩
  refine .after fun date => .after fun _ => .pure ?_
  exact Instant.regular_ofLocal date regular (Int.zero_mul 60).symm

/-- **An instant that was read is regular.** -/
theorem regular_of_read? {raw : String} {instant : Instant} (found : read? raw = some instant) :
    instant.Regular := by
  have formats : ∀ format ∈ [internet, dateTime (literal 'T'), dateTime blanks, dateOnly],
      Yields Instant.Regular format := by
    simp only [List.forall_mem_cons]
    exact ⟨yields_internet, yields_dateTime _, yields_dateTime _, yields_dateOnly, by simp⟩
  obtain ⟨format, mem, result⟩ := List.exists_of_findSome?_eq_some found
  obtain ⟨⟨value, rest⟩, read, rfl⟩ := Option.map_eq_some_iff.1 result
  exact formats format mem _ value rest read

/-- The empty text is no timestamp. -/
theorem read?_empty : read? "" = none := rfl

end Timestamp

end PortalConfig
