import Nullability.Document

/-!
# Parts of a document

Reading the parts of a table one by one, where null stands for a part that is missing and a part
of the wrong type counts as missing.

* `sizeOf_part?` and `sizeOf_itemsAt`: a part is smaller than the whole, so that a reader may
  follow the parts of a document down.
-/

namespace Nullability
namespace Document

/-- The items of a list, and none of anything else. -/
def items : Document → List Document
  | list xs => xs
  | _ => []

/-- The entries of a table, and none of anything else. -/
def entries : Document → List (Text × Document)
  | table es => es
  | _ => []

/-- The value at a key, where null stands for a missing one. -/
def part? (d : Document) (key : Text) : Option Document :=
  (d.get? key).bind fun
    | null => none
    | found => some found

/-- The items of the list at a key. -/
def itemsAt (d : Document) (key : Text) : List Document :=
  ((d.part? key).map items).getD []

/-- The entries of the table at a key. -/
def entriesAt (d : Document) (key : Text) : List (Text × Document) :=
  ((d.part? key).map entries).getD []

/-- The text at a key. -/
def textAt? (d : Document) (key : Text) : Option Text :=
  (d.part? key).bind asText?

/-- The text at a key, and the empty one if there is none. -/
def textAt (d : Document) (key : Text) : Text :=
  (d.textAt? key).getD ""

/-- The integer at a key. -/
def integerAt? (d : Document) (key : Text) : Option Int :=
  (d.part? key).bind asInteger?

/-- The position at a key. -/
def positionAt? (d : Document) (key : Text) : Option Nat :=
  (d.integerAt? key).map Int.toNat

/-- Whether the value at a key is true. -/
def truthAt (d : Document) (key : Text) : Bool :=
  ((d.part? key).bind asBool?).getD false

/-! ## Sizes -/

theorem sizeOf_lookup? {key : Text} {entries : List (Text × Document)} {found : Document}
    (h : lookup? key entries = some found) : sizeOf found < sizeOf entries := by
  induction entries with
  | nil => simp [lookup?] at h
  | cons entry rest ih =>
      obtain ⟨k, v⟩ := entry
      by_cases hk : k = key
      · simp only [lookup?, hk, if_true, Option.some.injEq] at h
        subst h
        simp
        omega
      · simp only [lookup?, hk, if_false] at h
        have := ih h
        simp
        omega

theorem sizeOf_get? {d found : Document} {key : Text} (h : d.get? key = some found) :
    sizeOf found < sizeOf d := by
  cases d with
  | table entries =>
      have := sizeOf_lookup? (show lookup? key entries = some found from h)
      simp
      omega
  | _ => simp [get?] at h

theorem sizeOf_part? {d found : Document} {key : Text} (h : d.part? key = some found) :
    sizeOf found < sizeOf d := by
  obtain ⟨inner, hget, hfound⟩ := Option.bind_eq_some_iff.1 h
  have := sizeOf_get? hget
  cases inner <;> simp_all

theorem sizeOf_items {d item : Document} (h : item ∈ d.items) : sizeOf item < sizeOf d := by
  cases d with
  | list xs =>
      have := List.sizeOf_lt_of_mem (show item ∈ xs from h)
      simp
      omega
  | _ => simp [items] at h

theorem sizeOf_itemsAt {d item : Document} {key : Text} (h : item ∈ d.itemsAt key) :
    sizeOf item < sizeOf d := by
  unfold itemsAt at h
  cases hp : d.part? key with
  | none => simp [hp] at h
  | some inner =>
      have hitem : item ∈ inner.items := by simpa [hp] using h
      have := sizeOf_part? hp
      have := sizeOf_items hitem
      omega

end Document
end Nullability
