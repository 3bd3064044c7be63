import PortalConfig.Doc.Basic
import PortalConfig.Json.Token

/-!
# Reading documents from JSON

A JSON text is one value, with nothing but blanks around it and brackets nested at most 127 deep.
A repeated key of an object keeps its first place and its last value.
-/

namespace PortalConfig.Json

/-- How deeply brackets may be nested. -/
def depthLimit : Nat := 127

mutual

/-- The value at the front of a sequence of tokens; `room` is how many brackets may still be
opened. -/
def value? (room : Nat) (tokens : List Token) : Option (Rest Token Doc tokens.length) :=
  match tokens with
  | .null :: rest => some ⟨.null, rest, by simp⟩
  | .bool b :: rest => some ⟨.bool b, rest, by simp⟩
  | .number n :: rest => some ⟨.number n, rest, by simp⟩
  | .string s :: rest => some ⟨.string s, rest, by simp⟩
  | .openArray :: rest =>
    match room, rest with
    | 0, _ => none
    | _, .closeArray :: rest => some ⟨.array [], rest, by simp only [List.length_cons]; omega⟩
    | room + 1, rest => (items? room rest).map fun r => (r.map .array).widen (by simp)
  | .openObject :: rest =>
    match room, rest with
    | 0, _ => none
    | _, .closeObject :: rest => some ⟨.object [], rest, by simp only [List.length_cons]; omega⟩
    | room + 1, rest => (members? room rest).map fun r =>
        (r.map fun pairs => .object (Members.insertAll [] pairs)).widen (by simp)
  | _ => none
termination_by (tokens.length, 0)

/-- One item or more, up to and with the closing bracket. -/
def items? (room : Nat) (tokens : List Token) : Option (Rest Token (List Doc) tokens.length) :=
  match value? room tokens with
  | none => none
  | some first =>
    have := first.shorter
    match h : first.rest with
    | .closeArray :: rest => some ⟨[first.value], rest, by rw [h] at this; simp at this; omega⟩
    | .comma :: rest =>
      have : rest.length < tokens.length := by rw [h] at this; simp at this; omega
      (items? room rest).map fun r => (r.map (first.value :: ·)).widen (by omega)
    | _ => none
termination_by (tokens.length, 1)

/-- One member or more, up to and with the closing brace. -/
def members? (room : Nat) (tokens : List Token) :
    Option (Rest Token (List (String × Doc)) tokens.length) :=
  match tokens with
  | .string key :: .colon :: start =>
    match value? room start with
    | none => none
    | some first =>
      have := first.shorter
      match h : first.rest with
      | .closeObject :: rest =>
        some ⟨[(key, first.value)], rest, by rw [h] at this; simp at this ⊢; omega⟩
      | .comma :: rest =>
        have : rest.length < start.length := by rw [h] at this; simp at this; omega
        (members? room rest).map fun r =>
          (r.map ((key, first.value) :: ·)).widen (by simp; omega)
      | _ => none
  | _ => none
termination_by (tokens.length, 1)

end

/-- The document that a JSON text holds. -/
def read? (text : String) : Option Doc := do
  let tokens ← tokens? text.toList
  let whole ← value? depthLimit tokens
  guard whole.rest.isEmpty
  return whole.value

end PortalConfig.Json
