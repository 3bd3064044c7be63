/-!
# Values under keys, in insertion order

A configuration map keeps the order in which its keys first appeared, because that order is the
precedence order of everything read from it. `Members` is the plain list of such pairs, as a
document object holds it; `Keyed` adds that no key occurs twice. Setting a key that is already
present keeps its place, setting a new key appends it (`keys_upsert`), and a key is found again
with the value last given to it (`get?_upsert_self`, `get?_upsert_of_ne`).
-/

namespace PortalConfig

/-- Pairs of a key and a value, in order. -/
abbrev Members (α : Type u) := List (String × α)

namespace Members

variable {α : Type u}

/-- The keys, in order. -/
def keys (members : Members α) : List String := members.map Prod.fst

/-- The value of the first pair with this key. -/
def get? (members : Members α) (key : String) : Option α :=
  match members with
  | [] => none
  | (k, v) :: rest => if k = key then some v else get? rest key

/-- Replaces the value of a key in place, or appends the key; `f` sees the present value. -/
def upsert (members : Members α) (key : String) (f : Option α → α) : Members α :=
  match members with
  | [] => [(key, f none)]
  | (k, v) :: rest => if k = key then (k, f (some v)) :: rest else (k, v) :: upsert rest key f

/-- Sets a key to a value. -/
def insert (members : Members α) (key : String) (value : α) : Members α :=
  members.upsert key fun _ => value

/-- Sets every pair in turn, so that the last value of a repeated key stands at its first place. -/
def insertAll (members : Members α) (pairs : List (String × α)) : Members α :=
  pairs.foldl (fun acc pair => acc.insert pair.1 pair.2) members

theorem get?_upsert_self (members : Members α) (key : String) (f : Option α → α) :
    (members.upsert key f).get? key = some (f (members.get? key)) := by
  induction members with
  | nil => simp [upsert, get?]
  | cons head rest ih =>
    obtain ⟨k, v⟩ := head
    by_cases h : k = key <;> simp [upsert, get?, h, ih]

theorem get?_upsert_of_ne (members : Members α) {key other : String} (f : Option α → α)
    (ne : other ≠ key) : (members.upsert key f).get? other = members.get? other := by
  induction members with
  | nil => simp [upsert, get?, Ne.symm ne]
  | cons head rest ih =>
    obtain ⟨k, v⟩ := head
    by_cases h : k = key
    · subst h
      simp [upsert, get?, Ne.symm ne]
    · simp [upsert, get?, h, ih]

theorem get?_eq_none_iff (members : Members α) (key : String) :
    members.get? key = none ↔ key ∉ members.keys := by
  induction members with
  | nil => simp [get?, keys]
  | cons head rest ih =>
    obtain ⟨k, v⟩ := head
    by_cases h : k = key
    · simp [get?, keys, h]
    · simpa [get?, keys, h, Ne.symm h] using ih

/-- Setting a key keeps the keys and their order; a new key comes last. -/
theorem keys_upsert (members : Members α) (key : String) (f : Option α → α) :
    (members.upsert key f).keys =
      if key ∈ members.keys then members.keys else members.keys ++ [key] := by
  induction members with
  | nil => simp [upsert, keys]
  | cons head rest ih =>
    obtain ⟨k, v⟩ := head
    by_cases h : k = key
    · simp [upsert, keys, h]
    · simp only [keys] at ih
      by_cases mem : key ∈ rest.map Prod.fst <;> simp_all [upsert, keys, Ne.symm h]

theorem nodup_keys_upsert {members : Members α} (nodup : members.keys.Nodup) (key : String)
    (f : Option α → α) : (members.upsert key f).keys.Nodup := by
  rw [keys_upsert]
  split
  · exact nodup
  · next fresh =>
    rw [List.nodup_append]
    exact ⟨nodup, by simp, fun a mem b eq => by simp at eq; rintro rfl; exact fresh (eq ▸ mem)⟩

end Members

/-- Values under distinct keys, in the order in which the keys were first inserted. -/
structure Keyed (α : Type u) where
  members : Members α
  nodup : members.keys.Nodup

namespace Keyed

variable {α : Type u}

/-- No keys at all. -/
def empty : Keyed α := ⟨[], by simp [Members.keys]⟩

instance : Inhabited (Keyed α) := ⟨empty⟩

/-- The keys, in order of first insertion. -/
def keys (table : Keyed α) : List String := table.members.keys

/-- The values, in the order of their keys. -/
def values (table : Keyed α) : List α := table.members.map Prod.snd

/-- How many keys there are. -/
def size (table : Keyed α) : Nat := table.members.length

/-- Whether there are no keys. -/
def isEmpty (table : Keyed α) : Bool := table.members.isEmpty

/-- The value under a key. -/
def get? (table : Keyed α) (key : String) : Option α := table.members.get? key

/-- Whether the key is present. -/
def contains (table : Keyed α) (key : String) : Bool := (table.get? key).isSome

/-- Replaces the value of a key in place, or appends the key; `f` sees the present value. -/
def upsert (table : Keyed α) (key : String) (f : Option α → α) : Keyed α :=
  ⟨table.members.upsert key f, Members.nodup_keys_upsert table.nodup key f⟩

/-- Sets a key to a value; a key that is present keeps its place. -/
def insert (table : Keyed α) (key : String) (value : α) : Keyed α :=
  table.upsert key fun _ => value

/-- Inserts every pair in turn. -/
def insertAll (table : Keyed α) (pairs : List (String × α)) : Keyed α :=
  pairs.foldl (fun acc pair => acc.insert pair.1 pair.2) table

/-- The table of a list of pairs: the last value of a repeated key, at its first place. -/
def ofList (pairs : List (String × α)) : Keyed α := empty.insertAll pairs

end Keyed

end PortalConfig
