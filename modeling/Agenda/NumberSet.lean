/-!
# Finite sets of numbers

A set is kept as the list of its elements in increasing order, so equal sets are equal values and a set
prints its elements in order without repetition.

* `mem_ofList` — a set made of a list holds exactly the numbers of the list.
-/

namespace Agenda

/-- A finite set of natural numbers, as the increasing list of its elements. -/
structure NumberSet where
  elements : List Nat
  increasing : elements.Pairwise (· < ·)
deriving DecidableEq, Repr

namespace NumberSet

instance : Membership Nat NumberSet where
  mem s n := n ∈ s.elements

instance (n : Nat) (s : NumberSet) : Decidable (n ∈ s) := inferInstanceAs (Decidable (n ∈ s.elements))

/-- Puts a number into an increasing list, unless it is there. -/
def place (n : Nat) : List Nat → List Nat
  | [] => [n]
  | m :: rest => if n < m then n :: m :: rest else if n = m then m :: rest else m :: place n rest

@[simp] theorem mem_place {n k : Nat} {l : List Nat} : k ∈ place n l ↔ k = n ∨ k ∈ l := by
  induction l with
  | nil => simp [place]
  | cons m rest ih =>
    rw [place]
    split
    · simp
    · split
      · rename_i h
        subst h
        simp
      · simp only [List.mem_cons, ih]
        constructor
        · rintro (h | h | h) <;> simp [h]
        · rintro (h | h | h) <;> simp [h]

theorem place_increasing {n : Nat} {l : List Nat} (h : l.Pairwise (· < ·)) :
    (place n l).Pairwise (· < ·) := by
  induction l with
  | nil => simp [place]
  | cons m rest ih =>
    rw [List.pairwise_cons] at h
    rw [place]
    split
    · rename_i hlt
      rw [List.pairwise_cons]
      refine ⟨?_, List.pairwise_cons.2 h⟩
      intro k hk
      rcases List.mem_cons.1 hk with rfl | hk
      · exact hlt
      · exact Nat.lt_trans hlt (h.1 k hk)
    · split
      · exact List.pairwise_cons.2 h
      · refine List.pairwise_cons.2 ⟨?_, ih h.2⟩
        intro k hk
        rcases mem_place.1 hk with rfl | hk
        · omega
        · exact h.1 k hk

theorem sorted_increasing (l : List Nat) : (l.foldr place []).Pairwise (· < ·) := by
  induction l with
  | nil => simp
  | cons n rest ih => exact place_increasing ih

/-- The set of the numbers of a list. -/
def ofList (l : List Nat) : NumberSet := ⟨l.foldr place [], sorted_increasing l⟩

def size (s : NumberSet) : Nat := s.elements.length

/-- **A set made of a list holds exactly the numbers of the list.** -/
@[simp] theorem mem_ofList {n : Nat} {l : List Nat} : n ∈ ofList l ↔ n ∈ l := by
  show n ∈ l.foldr place [] ↔ _
  induction l with
  | nil => simp
  | cons m rest ih => simp [ih]

example : (ofList [5, 1, 5, 3]).elements = [1, 3, 5] := by decide

end NumberSet

end Agenda
