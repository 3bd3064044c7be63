import PortalConfig.Catalog.CreatedAt
import PortalConfig.Proofs.Time.Written

/-!
# The order of the creation date column

The column orders rows by written instants. From the year 0 to 9999 the rows with the earlier
instant come first, as they do among instants of one year. Outside of these years the signs of the
years count instead: the year 10000 comes before all earlier years, and negative years in reverse
(`Column.order_createdAt`).
-/

namespace PortalConfig

theorem Text.compare_eq_lt_iff (text other : String) : compare text other = .lt ↔ text < other :=
  compareOfLessAndEq_eq_lt

theorem Text.compare_eq_gt_iff (text other : String) : compare text other = .gt ↔ other < text :=
  compareOfLessAndEq_eq_gt String.le_antisymm String.le_total String.not_le text other

namespace Column

theorem createdAtKey_of_readable {row : Row} {instant : Instant}
    (readable : createdAt? row = some instant) : createdAtKey row = instant.iso := by
  rw [createdAtKey, readable, Option.map_some, Option.getD_some]

theorem createdAtKey_of_unreadable {row : Row} (unreadable : createdAt? row = none) :
    createdAtKey row = "" := by
  rw [createdAtKey, unreadable, Option.map_none, Option.getD_none]

theorem regular_of_createdAt? {row : Row} {instant : Instant}
    (readable : createdAt? row = some instant) : instant.Regular := by
  obtain ⟨raw, -, read⟩ := Option.bind_eq_some_iff.1 readable
  exact Timestamp.regular_of_read? read

/-- The cell shows the annotation, which is not empty when it can be read. -/
theorem render_createdAt_eq_empty_iff (row : Row) :
    createdAt.render row = "" ↔ createdAt? row = none := by
  change ((row.entity.annotation? createdAtAnnotation).filter fun raw =>
    (Timestamp.read? raw).isSome).getD "" = "" ↔ _
  rw [createdAt?]
  cases row.entity.annotation? createdAtAnnotation with
  | none => exact iff_of_true rfl rfl
  | some raw =>
      rw [Option.bind_some]
      cases read : Timestamp.read? raw with
      | none => simp [Option.filter, read]
      | some instant =>
          have written : raw ≠ "" := by
            rintro rfl
            cases Timestamp.read?_empty.symm.trans read
          simp [Option.filter, read, written]

theorem createdAtKey_empty_lt {row : Row} {instant : Instant}
    (readable : createdAt? row = some instant) : "" < createdAtKey row := by
  rw [createdAtKey_of_readable readable, Instant.iso_eq, String.lt_iff]
  simp only [String.toList_ofList]
  cases text : Instant.yearText instant.date.year ++
      '-' :: Instant.fixedWidth Instant.layout instant.numbers with
  | nil => simp at text
  | cons first rest => exact List.nil_lt_cons first rest

/-- **The column orders rows by their instants as far as the years are written in order**, which
those from 0 to 9999 are. Rows without a readable date, which are those with an empty cell, are
equal to each other and come before the others. -/
theorem order_createdAt (a b : Row) :
    ∃ order, createdAt.order = some order ∧
      (∀ x y, createdAt? a = some x → createdAt? b = some y → x.Before y →
        ((order a b = .gt ↔ Instant.WrittenBefore y.date.year x.date.year) ∧
          (order b a = .lt ↔ Instant.WrittenBefore y.date.year x.date.year)) ∧
        (x.date.year = y.date.year ∨ 0 ≤ y.date.year ∧ y.date.year ≤ 9999 →
          order a b ≠ .gt ∧ order b a ≠ .lt) ∧
        (x.date.year ≤ 9999 ∧ 9999 < y.date.year ∨
            -9999 ≤ x.date.year ∧ x.date.year < y.date.year ∧ y.date.year < 0 →
          order a b = .gt ∧ order b a = .lt)) ∧
      (createdAt? a = none → createdAt? b = none → order a b = .eq) ∧
      (createdAt? a = none → createdAt? b ≠ none → order a b = .lt) ∧
      (createdAt? a = none ↔ createdAt.render a = "") := by
  refine ⟨_, rfl, fun x y readable readable' earlier => ?_, ?_, ?_, ?_⟩
  · have reversed : createdAtKey b < createdAtKey a ↔
        Instant.WrittenBefore y.date.year x.date.year := by
      rw [createdAtKey_of_readable readable, createdAtKey_of_readable readable']
      exact Instant.iso_lt_iso_iff (regular_of_createdAt? readable)
        (regular_of_createdAt? readable') earlier
    rw [Ne, Ne, Text.compare_eq_gt_iff, Text.compare_eq_lt_iff, reversed]
    refine ⟨⟨Iff.rfl, Iff.rfl⟩, fun inOrder => ?_, fun outOfOrder => ?_⟩
    · have kept : ¬ Instant.WrittenBefore y.date.year x.date.year :=
        Instant.not_writtenBefore_of_before earlier inOrder
      exact ⟨kept, kept⟩
    · have first : Instant.WrittenBefore y.date.year x.date.year := by
        rcases outOfOrder with ⟨most, late⟩ | ⟨least, less, negative⟩
        · exact Instant.writtenBefore_of_five_digits most late
        · exact Instant.writtenBefore_of_neg least less negative
      exact ⟨first, first⟩
  · intro unreadable unreadable'
    rw [createdAtKey_of_unreadable unreadable, createdAtKey_of_unreadable unreadable']
    rfl
  · intro unreadable readable
    obtain ⟨instant, readable⟩ := Option.ne_none_iff_exists'.1 readable
    rw [createdAtKey_of_unreadable unreadable, Text.compare_eq_lt_iff]
    exact createdAtKey_empty_lt readable
  · exact (render_createdAt_eq_empty_iff a).symm

/-- A row whose entity has nothing but a creation date. -/
def createdAtSample (raw : String) : Row :=
  .ofEntity ⟨.object [("metadata", .object [("annotations",
    .object [( createdAtAnnotation, .string raw)])])]⟩

/-- An inserted second and the beginning of the next month, a date of the year 10000 by its offset,
two negative years, and no date. -/
theorem order_createdAt_samples :
    (∃ order, createdAt.order = some order ∧
      order (createdAtSample "2024-06-30T23:59:60Z") (createdAtSample "2024-07-01T00:30:00+00:30") ≠
        .gt) ∧
    (∃ order, createdAt.order = some order ∧
      order (createdAtSample "2024-01-01") (createdAtSample "9999-12-31T23:30:00-01:00") = .gt) ∧
    (∃ order, createdAt.order = some order ∧
      order (createdAtSample "-0002-01-01") (createdAtSample "-0001-01-01") = .gt) ∧
    (∃ order, createdAt.order = some order ∧
      order (createdAtSample "yesterday") (createdAtSample "2024-01-01") = .lt) := by
  refine ⟨?_, ?_, ?_, ?_⟩
  · obtain ⟨order, declared, compared, -⟩ := order_createdAt
      (createdAtSample "2024-06-30T23:59:60Z") (createdAtSample "2024-07-01T00:30:00+00:30")
    have compared := compared ⟨1719791999, 1000000000⟩ ⟨1719792000, 0⟩ rfl (by decide)
      (.inl (by decide))
    exact ⟨order, declared, (compared.2.1 (.inl (by decide))).1⟩
  · obtain ⟨order, declared, compared, -⟩ := order_createdAt
      (createdAtSample "2024-01-01") (createdAtSample "9999-12-31T23:30:00-01:00")
    have compared := compared ⟨1704067200, 0⟩ ⟨253402302600, 0⟩ rfl rfl (.inl (by decide))
    exact ⟨order, declared, (compared.2.2 (.inl (by decide))).1⟩
  · obtain ⟨order, declared, compared, -⟩ := order_createdAt
      (createdAtSample "-0002-01-01") (createdAtSample "-0001-01-01")
    have compared := compared ⟨-62230291200, 0⟩ ⟨-62198755200, 0⟩ rfl rfl (.inl (by decide))
    exact ⟨order, declared, (compared.2.2 (.inr (by decide))).1⟩
  · obtain ⟨order, declared, -, -, first, -⟩ := order_createdAt
      (createdAtSample "yesterday") (createdAtSample "2024-01-01")
    exact ⟨order, declared, first rfl nofun⟩

/-- The year 10000 comes before the year 2024. -/
theorem createdAt_year_10000_first :
    createdAt? (createdAtSample "2024-01-01T00:00:00Z") = some ⟨1704067200, 0⟩ ∧
      createdAt? (createdAtSample "9999-12-31T23:30:00-01:00") = some ⟨253402302600, 0⟩ ∧
      Instant.Before ⟨1704067200, 0⟩ ⟨253402302600, 0⟩ ∧
      ∃ order, createdAt.order = some order ∧
        order (createdAtSample "2024-01-01T00:00:00Z")
          (createdAtSample "9999-12-31T23:30:00-01:00") = .gt :=
  ⟨rfl, rfl, .inl (by decide), _, rfl, rfl⟩

end Column

end PortalConfig
