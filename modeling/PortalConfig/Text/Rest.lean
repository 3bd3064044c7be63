/-!
# Reading from the front of a sequence

A reader takes something from the front of a sequence and hands back what it read and what is
left. `Rest` also says that something was used up, which is why reading comes to an end.
-/

namespace PortalConfig

/-- A value read from the front of a sequence of `limit` elements, and what is left of it. -/
structure Rest (τ : Type u) (α : Type v) (limit : Nat) where
  value : α
  rest : List τ
  shorter : rest.length < limit

namespace Rest

variable {τ : Type u} {α β : Type v} {m n : Nat}

/-- What was read before `rest`, in a sequence with at least one element more. -/
def of (value : α) (rest : List τ) : Rest τ α (rest.length + 1) :=
  ⟨value, rest, Nat.lt_succ_self _⟩

/-- The same reading with another value. -/
def map (f : α → β) (r : Rest τ α n) : Rest τ β n := ⟨f r.value, r.rest, r.shorter⟩

/-- A reading from a sequence is one from any sequence at least as long. -/
def widen (r : Rest τ α m) (h : m ≤ n) : Rest τ α n :=
  ⟨r.value, r.rest, Nat.lt_of_lt_of_le r.shorter h⟩

/-- A reading from a sequence, with one element in front of it. -/
def later (r : Rest τ α n) : Rest τ α (n + 1) := r.widen (Nat.le_succ n)

/-- What was read after `first`, as a reading from where `first` began. -/
def followedBy (first : Rest τ α n) (r : Rest τ β first.rest.length) : Rest τ β n :=
  r.widen (Nat.le_of_lt first.shorter)

/-- Goes on with what is left. -/
def andThen (r : Rest τ α n) (next : α → (rest : List τ) → Option (Rest τ β (rest.length + 1))) :
    Option (Rest τ β n) :=
  (next r.value r.rest).map (·.widen r.shorter)

end Rest

/-- What follows this very element, if the sequence starts with it. -/
def here? [DecidableEq τ] (element : τ) : (text : List τ) → Option (Rest τ Unit text.length)
  | [] => none
  | first :: rest => if first = element then some ⟨(), rest, by simp⟩ else none

theorem length_dropWhile_le (p : τ → Bool) (text : List τ) :
    (text.dropWhile p).length ≤ text.length :=
  (List.dropWhile_suffix p).length_le

/-- Takes the longest run of elements that satisfy `p`, the first of which is known to. -/
def takeRun (p : τ → Bool) (first : τ) (text : List τ) : Rest τ (List τ) (text.length + 1) :=
  ⟨first :: text.takeWhile p, text.dropWhile p, Nat.lt_succ_of_le (length_dropWhile_le p text)⟩

end PortalConfig
