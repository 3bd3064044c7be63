import Mathlib
import PortalConfig.Text.AsciiCase

/-!
# Texts that differ in letter case

`Text.SameUpToCase` says of two texts that they agree character by character, but for ASCII letters
of which one has the capital and the other the small one. No other characters are ever taken for
each other, in particular none beyond ASCII. Lower-casing decides it
(`Text.sameUpToCase_iff_asciiLower_eq`), and so does the comparison that is built on it
(`Text.equalIgnoringCase_iff_sameUpToCase`).
-/

namespace PortalConfig

/-! ## Characters -/

/-- An ASCII capital and its small letter, which stands 32 code points further on. -/
def Text.IsCapitalOf (capital small : Char) : Prop :=
  capital.isUpper = true ∧ small.toNat = capital.toNat + 32

/-- The same character, or the same ASCII letter in the other case. -/
def Text.SameLetter (a b : Char) : Prop := a = b ∨ IsCapitalOf a b ∨ IsCapitalOf b a

theorem Text.isUpper_bounds {c : Char} (capital : c.isUpper = true) :
    65 ≤ c.toNat ∧ c.toNat ≤ 90 := by
  simpa [Char.isUpper, UInt32.le_iff_toNat_le] using capital

theorem Text.toNat_toLower_of_isUpper {c : Char} (capital : c.isUpper = true) :
    c.toLower.toNat = c.toNat + 32 := by
  have bounds := isUpper_bounds capital
  have valid : (c.toNat + 32).isValidChar := by
    left
    omega
  rw [Char.toLower_eq_of_isUpper capital, Char.toNat_ofNat, if_pos valid]

/-- The small letter of a capital is no capital. -/
theorem Text.IsCapitalOf.not_isUpper {capital small : Char} (pair : IsCapitalOf capital small) :
    ¬ small.isUpper = true := by
  intro upper
  have low := isUpper_bounds pair.1
  have high := isUpper_bounds upper
  have apart := pair.2
  omega

theorem Text.toLower_eq_iff_of_isUpper {a b : Char} (capital : a.isUpper = true)
    (other : ¬ b.isUpper = true) : a.toLower = b.toLower ↔ IsCapitalOf a b := by
  rw [Char.toLower_eq_of_not_isUpper other, ← Char.toNat_inj, toNat_toLower_of_isUpper capital]
  exact ⟨fun same => ⟨capital, same.symm⟩, fun pair => pair.2.symm⟩

/-- Lower-casing takes exactly the same letters for each other. -/
theorem Text.sameLetter_iff {a b : Char} : SameLetter a b ↔ a.toLower = b.toLower := by
  by_cases first : a.isUpper = true
  · by_cases second : b.isUpper = true
    · have notFirst : ¬ IsCapitalOf a b := fun pair => pair.not_isUpper second
      have notSecond : ¬ IsCapitalOf b a := fun pair => pair.not_isUpper first
      rw [SameLetter, ← Char.toNat_inj (c := a.toLower), toNat_toLower_of_isUpper first,
        toNat_toLower_of_isUpper second, Nat.add_right_cancel_iff, Char.toNat_inj]
      simp only [notFirst, notSecond, or_false]
    · have ne : a ≠ b := fun same => second (same ▸ first)
      have notSecond : ¬ IsCapitalOf b a := fun pair => second pair.1
      rw [toLower_eq_iff_of_isUpper first second, SameLetter]
      simp only [ne, notSecond, false_or, or_false]
  · have notFirst : ¬ IsCapitalOf a b := fun pair => first pair.1
    by_cases second : b.isUpper = true
    · have ne : a ≠ b := fun same => first (same ▸ second)
      rw [eq_comm, toLower_eq_iff_of_isUpper second first, SameLetter]
      simp only [ne, notFirst, false_or]
    · have notSecond : ¬ IsCapitalOf b a := fun pair => second pair.1
      rw [Char.toLower_eq_of_not_isUpper first, Char.toLower_eq_of_not_isUpper second, SameLetter]
      simp only [notFirst, notSecond, or_false]

/-- What is no letter stays itself and comes from nothing else. -/
theorem Text.toLower_eq_iff_of_not_isAlpha {c mark : Char} (notLetter : mark.isAlpha = false) :
    c.toLower = mark ↔ c = mark := by
  have kept : mark.toLower = mark := by
    refine Char.toLower_eq_of_not_isUpper fun upper => ?_
    simp [Char.isAlpha, upper] at notLetter
  constructor
  · intro same
    have upper : ¬ c.isUpper = true := by
      intro capital
      have letter : c.toLower.isAlpha = true := by
        simp [Char.isAlpha, capital]
      rw [same, notLetter] at letter
      cases letter
    rwa [Char.toLower_eq_of_not_isUpper upper] at same
  · rintro rfl
    exact kept

/-! ## Texts -/

/-- The texts agree character by character, up to the case of ASCII letters. -/
def Text.SameUpToCase (a b : String) : Prop := List.Forall₂ SameLetter a.toList b.toList

section Texts

variable {a b : String}

theorem Text.sameUpToCase_iff_asciiLower_eq : SameUpToCase a b ↔ asciiLower a = asciiLower b := by
  have letters : SameLetter = fun x y => x.toLower = y.toLower :=
    funext₂ fun _ _ => propext sameLetter_iff
  rw [SameUpToCase, letters, asciiLower, asciiLower, String.ofList_inj, ← List.forall₂_eq_eq_eq,
    List.forall₂_map_left_iff, List.forall₂_map_right_iff]

theorem Text.equalIgnoringCase_iff_sameUpToCase :
    equalIgnoringCase a b = true ↔ SameUpToCase a b := by
  rw [equalIgnoringCase_iff, sameUpToCase_iff_asciiLower_eq]

instance (a b : String) : Decidable (Text.SameUpToCase a b) :=
  decidable_of_iff _ Text.equalIgnoringCase_iff_sameUpToCase

theorem Text.SameUpToCase.refl (a : String) : SameUpToCase a a :=
  sameUpToCase_iff_asciiLower_eq.2 rfl

theorem Text.SameUpToCase.symm (same : SameUpToCase a b) : SameUpToCase b a :=
  sameUpToCase_iff_asciiLower_eq.2 (sameUpToCase_iff_asciiLower_eq.1 same).symm

theorem Text.asciiLower_asciiLower (text : String) :
    asciiLower (asciiLower text) = asciiLower text := by
  have twice : Char.toLower ∘ Char.toLower = Char.toLower :=
    funext Char.toLower_toLower_eq_toLower
  rw [asciiLower, asciiLower, String.toList_ofList, List.map_map, twice]

theorem Text.sameUpToCase_asciiLower (text : String) : SameUpToCase (asciiLower text) text :=
  sameUpToCase_iff_asciiLower_eq.2 (asciiLower_asciiLower text)

/-- Lower-casing neither brings in nor takes away what is no letter. -/
theorem Text.mem_asciiLower_iff {mark : Char} (notLetter : mark.isAlpha = false) (text : String) :
    mark ∈ (asciiLower text).toList ↔ mark ∈ text.toList := by
  rw [asciiLower, String.toList_ofList, List.mem_map]
  simp only [toLower_eq_iff_of_not_isAlpha notLetter, exists_eq_right]

/-- The Kelvin sign is no letter of ASCII, although its small letter is the `k`. -/
example : ¬ Text.SameUpToCase "\u212Aind" "kind" := by decide

end Texts

end PortalConfig
