import Agenda.Json.Token

/-!
# JSON values

* `Value.ofTokens?` — the value that tokens spell.
* `parse?` — the value of a text, with nothing but white space around it.
-/

namespace Agenda.Json

/-- A JSON value.  The name of a member of an object is a literal, which may fail to form a text. -/
inductive Value
  | scalar (s : Scalar)
  | array (items : List Value)
  | object (members : List (Option (List Char) × Value))
deriving Repr

/-- What is left of a list after some of it was read. -/
abbrev Rest {α : Type} (s : List α) := { rest : List α // rest.length < s.length }

namespace Value

mutual

/-- The value at the beginning of tokens. -/
def ofTokens? : (ts : List Token) → Option (Value × Rest ts)
  | .scalar s :: ts => some (.scalar s, ⟨ts, by simp⟩)
  | .openArray :: .closeArray :: ts => some (.array [], ⟨ts, by simp only [List.length_cons]; omega⟩)
  | .openObject :: .closeObject :: ts => some (.object [], ⟨ts, by simp only [List.length_cons]; omega⟩)
  | .openArray :: ts =>
      match itemsOf? ts with
      | none => none
      | some (items, ⟨rest, h⟩) =>
          some (.array items, ⟨rest, by simp only [List.length_cons]; omega⟩)
  | .openObject :: ts =>
      match membersOf? ts with
      | none => none
      | some (members, ⟨rest, h⟩) =>
          some (.object members, ⟨rest, by simp only [List.length_cons]; omega⟩)
  | _ => none
termination_by ts => (ts.length, 0)

def itemsOf? (ts : List Token) : Option (List Value × Rest ts) :=
  match ofTokens? ts with
  | none => none
  | some (item, ⟨.closeArray :: rest, h⟩) =>
      some ([item], ⟨rest, by simp only [List.length_cons] at h; omega⟩)
  | some (item, ⟨.comma :: rest, h⟩) =>
      match itemsOf? rest with
      | none => none
      | some (items, ⟨rest, h'⟩) =>
          some (item :: items, ⟨rest, by simp only [List.length_cons] at h; omega⟩)
  | some _ => none
termination_by (ts.length, 1)
decreasing_by
  · exact Prod.Lex.right _ (by omega)
  · exact Prod.Lex.left _ _ (by simp only [List.length_cons] at h; omega)

/-- The members of an object from the first one to the closing bracket. -/
def membersOf? (ts : List Token) : Option (List (Option (List Char) × Value) × Rest ts) :=
  match ts with
  | .scalar (.text name) :: .colon :: ts =>
      match ofTokens? ts with
      | none => none
      | some (value, ⟨.closeObject :: rest, h⟩) =>
          some ([(name, value)], ⟨rest, by simp only [List.length_cons] at h ⊢; omega⟩)
      | some (value, ⟨.comma :: rest, h⟩) =>
          match membersOf? rest with
          | none => none
          | some (members, ⟨rest, h'⟩) =>
              some ((name, value) :: members, ⟨rest, by simp only [List.length_cons] at h ⊢; omega⟩)
      | some _ => none
  | _ => none
termination_by (ts.length, 1)
decreasing_by
  · exact Prod.Lex.left _ _ (by simp only [List.length_cons]; omega)
  · exact Prod.Lex.left _ _ (by simp only [List.length_cons] at h ⊢; omega)

end

end Value

def parse? (s : String) : Option Value := do
  let ts ← tokens? s.toList
  match Value.ofTokens? ts with
  | some (v, ⟨[], _⟩) => some v
  | _ => none

end Agenda.Json
