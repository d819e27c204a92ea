import Mathlib.Data.List.Infix
import Nullability.Document.Parts

/-!
# Values at the end of a path

A value can be stored at the end of a path of keys, where tables are made on the way wherever none
stands, and what is at the end of a path can be taken away.

* `Document.storeAt`, `Document.removeAt`: the two changes;
* `follow?_storeAt_self`, `follow?_removeAt_self`: what is found at the end of the path afterwards;
* `follow?_storeAt_of_apart`, `follow?_removeAt_of_apart`: nothing else is found differently, as
  long as neither path goes on from the end of the other.
-/

namespace Nullability
namespace Document

/-! ## One key -/

/-- The entries without those under a key. -/
def erase (key : Text) (es : List (Text × Document)) : List (Text × Document) :=
  es.filter fun entry => entry.1 ≠ key

theorem lookup?_erase_self (key : Text) (es : List (Text × Document)) :
    lookup? key (erase key es) = none := by
  induction es with
  | nil => rfl
  | cons entry rest ih =>
      obtain ⟨k, v⟩ := entry
      by_cases hk : k = key
      · simpa [erase, hk] using ih
      · simpa [erase, lookup?, hk] using ih

theorem lookup?_erase_of_ne {key other : Text} (h : other ≠ key)
    (es : List (Text × Document)) : lookup? other (erase key es) = lookup? other es := by
  induction es with
  | nil => rfl
  | cons entry rest ih =>
      obtain ⟨k, v⟩ := entry
      by_cases hk : k = key
      · subst hk
        simpa [erase, lookup?, Ne.symm h] using ih
      · have hkept : erase key ((k, v) :: rest) = (k, v) :: erase key rest := by simp [erase, hk]
        rw [hkept, lookup?, lookup?, ih]

@[simp] theorem entries_table (es : List (Text × Document)) : (table es).entries = es := rfl

theorem get?_eq_lookup? (document : Document) (key : Text) :
    document.get? key = lookup? key document.entries := by
  cases document <;> rfl

/-! ## A path of keys -/

/-- The document with a value at the end of a path. Whatever is on the way and is no table makes
room for one. -/
def storeAt (document : Document) (path : List Text) (value : Document) : Document :=
  match path with
  | [] => value
  | key :: path =>
      let inner := (document.get? key).getD (table [])
      table (insert key (inner.storeAt path value) document.entries)

/-- The document without what is at the end of a path. A path that leads nowhere takes nothing
away. -/
def removeAt : Document → List Text → Document
  | document, [] => document
  | table es, [key] => table (erase key es)
  | table es, key :: next :: path =>
      match lookup? key es with
      | some inner => table (insert key (inner.removeAt (next :: path)) es)
      | none => table es
  | document, _ => document

/-- Two paths part on the way: neither goes on from the end of the other. -/
def Apart (p q : List Text) : Prop :=
  ¬ p <+: q ∧ ¬ q <+: p

instance (p q : List Text) : Decidable (Apart p q) :=
  inferInstanceAs (Decidable (_ ∧ _))

variable {key other : Text} {p q path : List Text}

theorem not_apart_nil (q : List Text) : ¬ Apart [] q :=
  fun h => h.1 List.nil_prefix

theorem apart_cons_iff : Apart (key :: p) (other :: q) ↔ key ≠ other ∨ Apart p q := by
  simp only [Apart, List.cons_prefix_cons]
  by_cases h : key = other
  · simp [h]
  · simp [h, Ne.symm h]

theorem follow?_cons (document : Document) (key : Text) (path : List Text) :
    document.follow? (key :: path) =
      (lookup? key document.entries).bind fun inner => inner.follow? path := by
  rw [follow?, get?_eq_lookup?]

/-- Nothing is found in an empty table. -/
theorem follow?_empty (h : path ≠ []) : (table []).follow? path = none := by
  cases path with
  | nil => exact absurd rfl h
  | cons key path => rfl

/-- What is found below a key does not depend on whether the key is missing or holds an empty
table. -/
theorem follow?_getD_empty (h : path ≠ []) (found : Option Document) :
    (found.getD (table [])).follow? path = found.bind fun inner => inner.follow? path := by
  cases found with
  | none => exact follow?_empty h
  | some inner => rfl

/-! ## Storing -/

theorem follow?_storeAt_self (document : Document) (path : List Text) (value : Document) :
    (document.storeAt path value).follow? path = some value := by
  induction path generalizing document with
  | nil => rfl
  | cons key path ih =>
      simp only [storeAt, follow?_cons, entries_table, lookup?_insert_self, Option.bind_some]
      exact ih _

theorem follow?_storeAt_of_apart (h : Apart p q) (document value : Document) :
    (document.storeAt p value).follow? q = document.follow? q := by
  -- The paths are followed side by side up to where they part.
  induction p generalizing q document with
  | nil => exact absurd h (not_apart_nil q)
  | cons key p ih =>
      cases q with
      | nil => exact absurd List.nil_prefix h.2
      | cons other q =>
          simp only [storeAt, follow?_cons, entries_table]
          by_cases hkey : other = key
          · subst hkey
            have hapart : Apart p q := (apart_cons_iff.1 h).resolve_left (by simp)
            have hq : q ≠ [] := by
              rintro rfl
              exact hapart.2 List.nil_prefix
            rw [lookup?_insert_self, Option.bind_some, ih hapart, follow?_getD_empty hq,
              get?_eq_lookup?]
          · rw [lookup?_insert_of_ne hkey]

/-! ## Removing -/

theorem follow?_removeAt_self (h : path ≠ []) (document : Document) :
    (document.removeAt path).follow? path = none := by
  fun_induction removeAt document path with
  | case1 => exact absurd rfl h
  | case2 es key => rw [follow?_cons, entries_table, lookup?_erase_self, Option.bind_none]
  | case3 es key next path inner hinner ih =>
      rw [follow?_cons, entries_table, lookup?_insert_self, Option.bind_some]
      exact ih (by simp)
  | case4 es key next path hmissing =>
      rw [follow?_cons, entries_table, hmissing, Option.bind_none]
  | case5 path document hempty hsingle hlonger =>
      -- Only a table has anything at the end of a path.
      cases path with
      | nil => exact absurd rfl h
      | cons key path =>
          cases document with
          | table es =>
              cases path with
              | nil => exact (hsingle es key rfl rfl).elim
              | cons next path => exact (hlonger es key next path rfl rfl).elim
          | _ => rfl

theorem follow?_removeAt_of_apart (h : Apart p q) (document : Document) :
    (document.removeAt p).follow? q = document.follow? q := by
  fun_induction removeAt document p generalizing q with
  | case1 => exact absurd h (not_apart_nil q)
  | case2 es key =>
      cases q with
      | nil => exact absurd List.nil_prefix h.2
      | cons other q =>
          have hkey : other ≠ key := by
            rintro rfl
            exact (apart_cons_iff.1 h).elim (fun hne => hne rfl) (not_apart_nil q)
          simp only [follow?_cons, entries_table, lookup?_erase_of_ne hkey]
  | case3 es key next path inner hinner ih =>
      cases q with
      | nil => exact absurd List.nil_prefix h.2
      | cons other q =>
          simp only [follow?_cons, entries_table]
          by_cases hkey : other = key
          · subst hkey
            have hapart : Apart (next :: path) q := (apart_cons_iff.1 h).resolve_left (by simp)
            rw [lookup?_insert_self, hinner, Option.bind_some, Option.bind_some, ih hapart]
          · rw [lookup?_insert_of_ne hkey]
  | case4 => rfl
  | case5 => rfl

end Document
end Nullability
