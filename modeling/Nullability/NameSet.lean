import Nullability.Text.Letter

/-!
# Sets of names

A finite set of strings, kept as an ascending list, so that two sets with the same members are
the same value and have one written order.

* `mem_ofList`: the set of a list has the members of the list;
* `ext_toList`: a set is determined by its ascending list.
-/

namespace Nullability

/-- A finite set of strings. -/
structure NameSet where
  /-- The members in ascending order. -/
  toList : List Text
  /-- Each member once, in order. -/
  ascending : toList.Pairwise (· < ·)

namespace NameSet

theorem ext_toList {s t : NameSet} (h : s.toList = t.toList) : s = t := by
  cases s
  cases t
  cases h
  rfl

instance : DecidableEq NameSet := fun s t =>
  if h : s.toList = t.toList then isTrue (ext_toList h)
  else isFalse fun e => h (congrArg toList e)

instance : Repr NameSet := ⟨fun s n => reprPrec s.toList n⟩

/-! ## Insertion into an ascending list -/

/-- Inserts a string into an ascending list unless it is there. -/
def insertSorted (x : Text) : List Text → List Text
  | [] => [x]
  | y :: rest =>
      if x < y then x :: y :: rest
      else if x = y then y :: rest
      else y :: insertSorted x rest

theorem mem_insertSorted {x z : Text} {xs : List Text} :
    z ∈ insertSorted x xs ↔ z = x ∨ z ∈ xs := by
  induction xs with
  | nil => simp [insertSorted]
  | cons y rest ih =>
      rw [insertSorted]
      split
      · simp
      · split
        · next h => simp [h]
        · simp only [List.mem_cons, ih]
          constructor
          · rintro (rfl | rfl | h) <;> simp_all
          · rintro (rfl | rfl | h) <;> simp_all

theorem pairwise_insertSorted (x : Text) {xs : List Text} (h : xs.Pairwise (· < ·)) :
    (insertSorted x xs).Pairwise (· < ·) := by
  induction xs with
  | nil => simp [insertSorted]
  | cons y rest ih =>
      obtain ⟨hy, hrest⟩ := List.pairwise_cons.1 h
      rw [insertSorted]
      split
      · next hxy =>
        refine List.pairwise_cons.2 ⟨?_, h⟩
        intro z hz
        rcases List.mem_cons.1 hz with rfl | hz
        · exact hxy
        · exact Text.lt_trans hxy (hy z hz)
      · next hxy =>
        split
        · exact h
        · next hne =>
          refine List.pairwise_cons.2 ⟨?_, ih hrest⟩
          intro z hz
          rcases mem_insertSorted.1 hz with rfl | hz
          · exact Text.lt_of_not_lt hxy hne
          · exact hy z hz

/-! ## Sets -/

/-- The set without members. -/
def empty : NameSet := ⟨[], List.Pairwise.nil⟩

/-- The set with one member more. -/
def insert (x : Text) (s : NameSet) : NameSet :=
  ⟨insertSorted x s.toList, pairwise_insertSorted x s.ascending⟩

/-- The set of the members of a list. -/
def ofList (xs : List Text) : NameSet :=
  xs.foldr insert empty

/-- Whether a string is a member. -/
def contains (s : NameSet) (x : Text) : Bool :=
  s.toList.contains x

/-- Whether the set has no member. -/
def isEmpty (s : NameSet) : Bool :=
  s.toList.isEmpty

theorem mem_ofList {x : Text} {xs : List Text} : x ∈ (ofList xs).toList ↔ x ∈ xs := by
  induction xs with
  | nil => simp [ofList, empty]
  | cons y rest ih =>
      have step : (ofList (y :: rest)).toList = insertSorted y (ofList rest).toList := rfl
      rw [step, mem_insertSorted, ih, List.mem_cons]

end NameSet
end Nullability
