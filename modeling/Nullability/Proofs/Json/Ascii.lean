import Nullability.Config.Edit
import Nullability.Text.Encoding

/-!
# What every encoding covers

ASCII has its bytes in each encoding, and a configuration is written in ASCII, whatever its texts
are.

* `covers_of_isAscii`: a text of ASCII characters is covered;
* `isAscii_stringChars`: so is what is written for a text in JSON;
* `Draft.covers_toJson`: so is the text of a draft.
-/

namespace Nullability

/-! ## ASCII -/

namespace Text

/-- Whether a character is one of ASCII. -/
def isAscii (c : Letter) : Bool :=
  c.toNat < 0x80

theorem isAscii_digitChar {n : Nat} (h : n < 10) : isAscii (digitChar n) = true := by
  have hall : ∀ n < 10, isAscii (digitChar n) = true := by decide
  exact hall n h

theorem all_isAscii_decimalDigits (n : Nat) : (decimalDigits n).all isAscii = true := by
  fun_induction decimalDigits n with
  | case1 n h => simp [isAscii_digitChar h]
  | case2 n h ih => simp [ih, isAscii_digitChar (Nat.mod_lt n (by omega))]

@[simp]
theorem all_isAscii_integerChars (n : Int) : (integerChars n).all isAscii = true := by
  cases n with
  | ofNat n => exact all_isAscii_decimalDigits n
  | negSucc n =>
      rw [integerChars, List.all_cons, all_isAscii_decimalDigits]
      rfl

theorem isAscii_hexDigit {n : Nat} (h : n < 16) : isAscii (hexDigit n) = true := by
  have hall : ∀ n < 16, isAscii (hexDigit n) = true := by decide
  exact hall n h

theorem all_isAscii_hexDigits (width n : Nat) : (hexDigits width n).all isAscii = true := by
  induction width generalizing n with
  | zero => rfl
  | succ width ih => simp [hexDigits, ih, isAscii_hexDigit (Nat.mod_lt n (by omega))]

end Text

namespace Encoding

theorem takes_of_isAscii (encoding : Encoding) {c : Letter} (h : Text.isAscii c = true) :
    encoding.takes c = true := by
  have hsize : 0x80 ≤ encoding.size := by cases encoding <;> decide
  have hascii : c.toNat < 0x80 := by simpa [Text.isAscii] using h
  cases c with
  | half i =>
      simp only [Letter.toNat] at hascii
      omega
  | char c =>
      have hchar : c.toNat < encoding.size := Nat.lt_of_lt_of_le hascii hsize
      simp [takes, Letter.isChar, hchar]

theorem covers_of_isAscii (encoding : Encoding) {s : Text}
    (h : s.toList.all Text.isAscii = true) : encoding.covers s = true := by
  refine List.all_eq_true.2 ?_
  intro c hc
  exact takes_of_isAscii encoding (List.all_eq_true.1 h c hc)

end Encoding

/-! ## JSON in ASCII -/

namespace Json

theorem all_isAscii_codeEscape (c : Letter) : (codeEscape c).all Text.isAscii = true := by
  have hunit : ∀ n, (unitEscape n).all Text.isAscii = true := by
    intro n
    rw [unitEscape, List.all_cons, List.all_cons, Text.all_isAscii_hexDigits]
    rfl
  unfold codeEscape
  dsimp only
  split
  · exact hunit _
  · rw [List.all_append, hunit, hunit]
    rfl

theorem all_isAscii_charChars (c : Letter) : (charChars true c).all Text.isAscii = true := by
  fun_cases charChars true c with
  | case8 => exact all_isAscii_codeEscape c
  | case9 => exact all_isAscii_codeEscape c
  | case10 =>
      simp only [Bool.true_and, decide_eq_true_eq, Nat.not_lt] at *
      simp [Text.isAscii]
      omega
  | _ => decide

@[simp]
theorem all_isAscii_stringChars (s : Text) : (stringChars true s).all Text.isAscii = true := by
  have hmark : Text.isAscii '"' = true := by decide
  simp [stringChars, hmark, List.all_flatMap, all_isAscii_charChars]

/-- A document is written in ASCII at whatever depth it stands. -/
def IsAscii (document : Document) : Prop :=
  ∀ level, (blockChars true level document).all Text.isAscii = true

theorem isAscii_bool (b : Bool) : IsAscii (.bool b) := by
  intro level
  cases b <;> rfl

theorem isAscii_integer (n : Int) : IsAscii (.integer n) := by
  intro level
  simp [blockChars, atomChars]

theorem isAscii_text (s : Text) : IsAscii (.text s) := by
  intro level
  simp [blockChars, atomChars]

theorem all_isAscii_newLine (level : Nat) : (newLine level).all Text.isAscii = true := by
  simp [newLine, Text.isAscii]

theorem isAscii_table {entries : List (Text × Document)}
    (h : ∀ entry ∈ entries, IsAscii entry.2) : IsAscii (.table entries) := by
  intro level
  have hcomma : Text.isAscii ',' = true := rfl
  have hcolon : Text.isAscii ':' = true := rfl
  have hspace : Text.isAscii ' ' = true := rfl
  have hopen : Text.isAscii '\x7b' = true := rfl
  have hclose : Text.isAscii '\x7d' = true := rfl
  cases entries with
  | nil => rfl
  | cons entry entries =>
      rcases List.forall_mem_cons.1 h with ⟨hfirst, hrest⟩
      have hfollowing : (following (newLine (level + 1))
          (entryChars true (blockChars true (level + 1))) entries).all Text.isAscii = true := by
        rw [following, List.all_flatMap]
        refine List.all_eq_true.2 fun entry hentry => ?_
        simp only [entryChars, List.cons_append, List.all_cons, List.all_append, hcomma, hcolon,
          hspace, all_isAscii_newLine, all_isAscii_stringChars, hrest entry hentry (level + 1),
          Bool.and_self]
      simp only [blockChars, blockEntries_eq, List.cons_append, List.all_cons, List.all_append,
        List.all_nil, hopen, hclose, hcolon, hspace, all_isAscii_newLine, all_isAscii_stringChars,
        hfirst (level + 1), hfollowing, Bool.and_self]

end Json

namespace Draft

theorem isAscii_modeTable (active deep : Bool) : Json.IsAscii (modeTable active deep) :=
  Json.isAscii_table (by simp [Json.isAscii_bool])

theorem isAscii_toDocument (d : Draft) : Json.IsAscii d.toDocument := by
  refine Json.isAscii_table ?_
  simp [isAscii_modeTable, Json.isAscii_bool, Json.isAscii_text, Json.isAscii_integer,
    Json.isAscii_table]

/-- The document of a draft is written in ASCII, so that every encoding covers it. -/
theorem covers_toJson (d : Draft) (encoding : Encoding) :
    encoding.covers (d.toJson ++ "\n") = true := by
  refine encoding.covers_of_isAscii ?_
  have hbreak : ("\n" : Text).toList.all Text.isAscii = true := by decide
  rw [Text.toList_append, List.all_append, hbreak, toJson, Json.block, Text.toList_ofList,
    isAscii_toDocument d 0]
  rfl

end Draft
end Nullability
