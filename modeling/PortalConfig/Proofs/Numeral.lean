import PortalConfig.Text.Numeral

/-!
# Numerals

The decimal digits of a number are read as that number (`Numeral.readUnsigned?_toDigits`), and
digits of equal length are in the order of their numbers (`Numeral.lt_iff_ofDigitChars_lt`). Other
texts that are read as a number have a plus sign or needless zeros in front of its digits
(`Numeral.eq_toDigits_iff`).
-/

namespace PortalConfig

/-! ## Reading -/

theorem Numeral.digit_bounds {c : Char} (digit : c.isDigit = true) :
    48 ≤ c.toNat ∧ c.toNat ≤ 57 := by
  rw [Char.isDigit, Bool.and_eq_true, decide_eq_true_eq, decide_eq_true_eq] at digit
  exact digit

theorem Numeral.digitOf?_of_isDigit {c : Char} (digit : c.isDigit = true) :
    digitOf? 10 c = some (c.toNat - '0'.toNat) := by
  have range : '0' ≤ c ∧ c ≤ '9' := digit_bounds digit
  have upper : c.toNat ≤ 57 := range.2
  have small : c.toNat - '0'.toNat < 10 := by
    change c.toNat - 48 < 10
    omega
  rw [digitOf?, digitValue?, if_pos range]
  exact Option.filter_some_pos (decide_eq_true small)

theorem Numeral.appendDigits?_of_isDigit {digits : List Char}
    (all : ∀ c ∈ digits, c.isDigit = true) (value : Nat) :
    appendDigits? 10 value digits = some (Nat.ofDigitChars 10 digits value) := by
  induction digits generalizing value with
  | nil => rfl
  | cons c rest ih =>
      obtain ⟨digit, more⟩ := List.forall_mem_cons.1 all
      rw [appendDigits?, digitOf?_of_isDigit digit, Option.bind_some, ih more,
        Nat.ofDigitChars_cons, Nat.mul_comm]

/-- The decimal digits of a number are digits. -/
theorem Numeral.isDigit_of_mem_toDigits {n : Nat} {c : Char} (mem : c ∈ Nat.toDigits 10 n) :
    c.isDigit = true :=
  Nat.isDigit_of_mem_toDigits (by decide) (by decide) mem

theorem Numeral.readDigits?_toDigits (n : Nat) : readDigits? 10 (Nat.toDigits 10 n) = some n := by
  have read : appendDigits? 10 0 (Nat.toDigits 10 n) = some n := by
    rw [appendDigits?_of_isDigit fun _ => isDigit_of_mem_toDigits, Nat.ofDigitChars_ten_toDigits]
  cases digits : Nat.toDigits 10 n with
  | nil => exact (Nat.toDigits_ne_nil digits).elim
  | cons c rest => rwa [digits] at read

/-- A number below the limit is read off its decimal digits. -/
theorem Numeral.readUnsigned?_toDigits {n limit : Nat} (below : n < limit) :
    readUnsigned? 10 limit (Nat.toDigits 10 n) = some n := by
  have read : (readDigits? 10 (Nat.toDigits 10 n)).filter (· < limit) = some n := by
    simp [readDigits?_toDigits, below]
  rw [readUnsigned?]
  · exact read
  · intro digits plus
    have digit : '+'.isDigit = true :=
      isDigit_of_mem_toDigits (n := n) (by rw [plus]; exact List.mem_cons_self)
    cases digit

theorem Numeral.isDigit_of_digitOf? {c : Char} {d : Nat} (value : digitOf? 10 c = some d) :
    c.isDigit = true := by
  obtain ⟨given, small⟩ := Option.filter_eq_some_iff.1 value
  rw [digitValue?] at given
  split at given
  · next range =>
    rw [Char.isDigit, Bool.and_eq_true, decide_eq_true_eq, decide_eq_true_eq]
    exact range
  · -- A letter stands for ten or more.
    have below : d < 10 := of_decide_eq_true small
    split at given
    · obtain rfl := Option.some.inj given
      omega
    · obtain ⟨-, given⟩ := Option.ite_none_right_eq_some.1 given
      obtain rfl := Option.some.inj given
      omega

theorem Numeral.isDigit_of_appendDigits? {text : List Char} {value n : Nat}
    (read : appendDigits? 10 value text = some n) : ∀ c ∈ text, c.isDigit = true := by
  induction text generalizing value with
  | nil => nofun
  | cons c rest ih =>
      obtain ⟨d, digit, more⟩ := Option.bind_eq_some_iff.1 read
      exact List.forall_mem_cons.2 ⟨isDigit_of_digitOf? digit, ih more⟩

/-- A numeral without a sign is the decimal digits of its number, perhaps after zeros. -/
theorem Numeral.readUnsigned?_digits {limit n : Nat} {text : List Char}
    (unsigned : text.head? ≠ some '+') (read : readUnsigned? 10 limit text = some n) :
    text ≠ [] ∧ (∀ c ∈ text, c.isDigit = true) ∧ n = Nat.ofDigitChars 10 text 0 := by
  cases text with
  | nil => cases read
  | cons c rest =>
      have digits : readUnsigned? 10 limit (c :: rest) =
          (readDigits? 10 (c :: rest)).filter (· < limit) := by
        rw [readUnsigned?]
        intro digits eq
        obtain ⟨rfl, -⟩ := List.cons.inj eq
        exact unsigned rfl
      rw [digits] at read
      have run : appendDigits? 10 0 (c :: rest) = some n := (Option.filter_eq_some_iff.1 read).1
      have all := isDigit_of_appendDigits? run
      rw [appendDigits?_of_isDigit all] at run
      exact ⟨List.cons_ne_nil _ _, all, (Option.some.inj run).symm⟩

/-! ## Order -/

/-- Texts whose beginnings have the same length are in the order of these, or else of the rest. -/
theorem Text.append_lt_append_iff {first other : List Char} (length : first.length = other.length)
    (rest more : List Char) :
    first ++ rest < other ++ more ↔ first < other ∨ first = other ∧ rest < more := by
  induction first generalizing other with
  | nil =>
      obtain rfl := List.length_eq_zero_iff.1 length.symm
      simp
  | cons c cs ih =>
      obtain ⟨d, ds, rfl⟩ := List.exists_cons_of_length_eq_add_one length.symm
      have tails : cs ++ rest < ds ++ more ↔ cs < ds ∨ cs = ds ∧ rest < more :=
        ih (Nat.succ.inj length)
      rw [List.cons_append, List.cons_append, List.cons_lt_cons_iff, List.cons_lt_cons_iff,
        List.cons_eq_cons, tails]
      grind

/-- The first digit counts for the highest power. -/
theorem Numeral.ofDigitChars_cons (c : Char) (digits : List Char) :
    Nat.ofDigitChars 10 (c :: digits) 0 =
      Nat.pow 10 digits.length * (c.toNat - 48) + Nat.ofDigitChars 10 digits 0 := by
  rw [Nat.ofDigitChars_cons, Nat.ofDigitChars_eq_ofDigitChars_zero, Nat.mul_zero, Nat.zero_add]
  rfl

theorem Numeral.ofDigitChars_lt {digits : List Char} (all : ∀ c ∈ digits, c.isDigit = true) :
    Nat.ofDigitChars 10 digits 0 < Nat.pow 10 digits.length := by
  induction digits with
  | nil => decide
  | cons c digits ih =>
      obtain ⟨digit, all⟩ := List.forall_mem_cons.1 all
      have bounds := digit_bounds digit
      have value : Nat.pow 10 digits.length * (c.toNat - 48) ≤ Nat.pow 10 digits.length * 9 :=
        Nat.mul_le_mul_left _ (by omega)
      have rest := ih all
      have power : Nat.pow 10 (digits.length + 1) = Nat.pow 10 digits.length * 10 := rfl
      rw [ofDigitChars_cons, List.length_cons, power]
      omega

/-- **Digits of equal length are in the order of their numbers.** -/
theorem Numeral.lt_iff_ofDigitChars_lt {digits other : List Char}
    (all : ∀ c ∈ digits, c.isDigit = true) (allOther : ∀ c ∈ other, c.isDigit = true)
    (length : digits.length = other.length) :
    digits < other ↔ Nat.ofDigitChars 10 digits 0 < Nat.ofDigitChars 10 other 0 := by
  induction digits generalizing other with
  | nil =>
      obtain rfl := List.length_eq_zero_iff.1 length.symm
      simp
  | cons c cs ih =>
      obtain ⟨d, ds, rfl⟩ := List.exists_cons_of_length_eq_add_one length.symm
      obtain ⟨digit, all⟩ := List.forall_mem_cons.1 all
      obtain ⟨digit', allOther⟩ := List.forall_mem_cons.1 allOther
      have lengths : cs.length = ds.length := Nat.succ.inj length
      have below := ofDigitChars_lt all
      have below' := ofDigitChars_lt allOther
      have bounds := digit_bounds digit
      have bounds' := digit_bounds digit'
      rw [List.cons_lt_cons_iff, ih all allOther lengths, ofDigitChars_cons, ofDigitChars_cons]
      rw [lengths] at below ⊢
      rcases Nat.lt_trichotomy c.toNat d.toNat with less | same | greater
      · have step : Nat.pow 10 ds.length * (c.toNat - 48 + 1) ≤ Nat.pow 10 ds.length * (d.toNat - 48) :=
          Nat.mul_le_mul_left _ (by omega)
        rw [Nat.mul_succ] at step
        exact iff_of_true (.inl less) (by omega)
      · obtain rfl := Char.toNat_inj.1 same
        simp
      · have step : Nat.pow 10 ds.length * (d.toNat - 48 + 1) ≤ Nat.pow 10 ds.length * (c.toNat - 48) :=
          Nat.mul_le_mul_left _ (by omega)
        rw [Nat.mul_succ] at step
        refine iff_of_false ?_ (by omega)
        rintro (less | ⟨rfl, -⟩)
        · exact Nat.lt_asymm less greater
        · exact Nat.lt_irrefl _ greater

/-- Digits before a dash are in the order that they have without it: the dash comes before all
digits, as the end of the text does. -/
theorem Numeral.append_dash_lt_iff {digits other : List Char}
    (all : ∀ c ∈ digits, c.isDigit = true) (allOther : ∀ c ∈ other, c.isDigit = true)
    (rest more : List Char) :
    digits ++ '-' :: rest < other ++ '-' :: more ↔
      digits < other ∨ digits = other ∧ rest < more := by
  have dash {c : Char} (digit : c.isDigit = true) : '-' < c :=
    Nat.lt_of_lt_of_le (by decide) (digit_bounds digit).1
  induction digits generalizing other with
  | nil =>
      cases other with
      | nil => simp
      | cons d ds => simp [List.cons_lt_cons_iff, dash (List.forall_mem_cons.1 allOther).1]
  | cons c cs ih =>
      obtain ⟨digit, all⟩ := List.forall_mem_cons.1 all
      cases other with
      | nil =>
          have after : '-' < c := dash digit
          rw [List.cons_append, List.nil_append, List.cons_lt_cons_iff]
          grind [List.not_lt_nil]
      | cons d ds =>
          have tails : cs ++ '-' :: rest < ds ++ '-' :: more ↔ cs < ds ∨ cs = ds ∧ rest < more :=
            ih all (List.forall_mem_cons.1 allOther).2
          rw [List.cons_append, List.cons_append, List.cons_lt_cons_iff, List.cons_lt_cons_iff,
            List.cons_eq_cons, tails]
          grind

/-! ## Writing -/

theorem Numeral.toDigits_digit {c : Char} (digit : c.isDigit = true) :
    Nat.toDigits 10 (c.toNat - '0'.toNat) = [c] := by
  have bounds := digit_bounds digit
  have small : c.toNat - '0'.toNat < 10 := by
    change c.toNat - 48 < 10
    omega
  have same : (c.toNat - '0'.toNat).digitChar = c := by
    refine Char.toNat_inj.1 ?_
    rw [Nat.toNat_digitChar_of_lt_ten small]
    change 48 + (c.toNat - 48) = c.toNat
    omega
  rw [Nat.toDigits_of_lt_base small, same]

/-- Digits that follow a number other than zero continue its decimal digits. -/
theorem Numeral.toDigits_ofDigitChars {digits : List Char} (all : ∀ c ∈ digits, c.isDigit = true)
    {value : Nat} (positive : 0 < value) :
    Nat.toDigits 10 (Nat.ofDigitChars 10 digits value) = Nat.toDigits 10 value ++ digits := by
  induction digits generalizing value with
  | nil => exact (List.append_nil _).symm
  | cons c rest ih =>
      obtain ⟨digit, more⟩ := List.forall_mem_cons.1 all
      have bounds := digit_bounds digit
      have small : c.toNat - '0'.toNat < 10 := by
        change c.toNat - 48 < 10
        omega
      have grown : 0 < 10 * value + (c.toNat - '0'.toNat) := by omega
      rw [Nat.ofDigitChars_cons, ih more grown,
        ← Nat.toDigits_append_toDigits (by decide) positive small, toDigits_digit digit,
        List.append_assoc, List.singleton_append]

/-- Digits that do not begin with a needless zero are the decimal digits of their number. -/
theorem Numeral.toDigits_ofDigitChars_zero {digits : List Char} (nonempty : digits ≠ [])
    (all : ∀ c ∈ digits, c.isDigit = true)
    (needed : digits.head? = some '0' → digits.length ≤ 1) :
    Nat.toDigits 10 (Nat.ofDigitChars 10 digits 0) = digits := by
  cases digits with
  | nil => exact (nonempty rfl).elim
  | cons c rest =>
      obtain ⟨digit, more⟩ := List.forall_mem_cons.1 all
      by_cases zero : c = '0'
      · subst zero
        have alone : rest.length = 0 := Nat.le_zero.1 (Nat.le_of_succ_le_succ (needed rfl))
        obtain rfl := List.length_eq_zero_iff.1 alone
        rfl
      · have bounds := digit_bounds digit
        have other : c.toNat ≠ '0'.toNat := fun same => zero (Char.toNat_inj.1 same)
        have positive : 0 < c.toNat - '0'.toNat := by
          change c.toNat ≠ 48 at other
          change 0 < c.toNat - 48
          omega
        rw [Nat.ofDigitChars_cons, Nat.mul_zero, Nat.zero_add, toDigits_ofDigitChars more positive,
          toDigits_digit digit, List.singleton_append]

/-- Written otherwise than a number is: with a plus sign or with needless zeros in front. -/
def Numeral.IsPadded (text : List Char) : Prop :=
  text.head? = some '+' ∨ text.head? = some '0' ∧ 1 < text.length

instance : DecidablePred Numeral.IsPadded := fun text =>
  inferInstanceAs (Decidable (text.head? = some '+' ∨ text.head? = some '0' ∧ 1 < text.length))

/-- The decimal digits of a number begin with a zero only where they are all of it. -/
theorem Numeral.not_isPadded_toDigits (n : Nat) : ¬ IsPadded (Nat.toDigits 10 n) := by
  intro padded
  rcases padded with plus | ⟨zero, longer⟩
  · have digit : '+'.isDigit = true := isDigit_of_mem_toDigits (List.mem_of_mem_head? plus)
    cases digit
  · obtain ⟨rest, eq⟩ := List.head?_eq_some_iff.1 zero
    have value : Nat.ofDigitChars 10 ('0' :: rest) 0 = n := by
      rw [← eq, Nat.ofDigitChars_ten_toDigits]
    have all : ∀ c ∈ rest, c.isDigit = true := fun c mem =>
      isDigit_of_mem_toDigits (by rw [eq]; exact List.mem_cons_of_mem _ mem)
    have below : n < Nat.pow 10 rest.length := by
      rw [← value]
      exact ofDigitChars_lt all
    have longer : 0 < rest.length := by
      rw [eq, List.length_cons] at longer
      omega
    have shorter : (Nat.toDigits 10 n).length ≤ rest.length :=
      (Nat.length_toDigits_le_iff (by decide) longer).2 below
    rw [eq, List.length_cons] at shorter
    exact Nat.not_succ_le_self _ shorter

/-- A numeral that is not padded is written as its number is. -/
theorem Numeral.eq_toDigits_iff {limit n : Nat} {text : List Char}
    (read : readUnsigned? 10 limit text = some n) :
    text = Nat.toDigits 10 n ↔ ¬ IsPadded text := by
  constructor
  · intro eq
    rw [eq]
    exact not_isPadded_toDigits n
  · intro plain
    have unsigned : text.head? ≠ some '+' := fun plus => plain (Or.inl plus)
    obtain ⟨nonempty, all, rfl⟩ := readUnsigned?_digits unsigned read
    have needed : text.head? = some '0' → text.length ≤ 1 := fun zero =>
      Nat.le_of_not_lt fun longer => plain (Or.inr ⟨zero, longer⟩)
    exact (toDigits_ofDigitChars_zero nonempty all needed).symm

end PortalConfig
