/-!
# Texts

A text is a sequence of code points. Most of them are characters; the others are the halves of
surrogate pairs, of which a text may hold any, although they stand for no character on their own
and have no bytes in an encoding.

* `Letter` is one code point, `Text` a sequence of them, and every string is a text;
* `Text.toUTF8` gives the bytes of a text, and `Text.nameBytes` those of a file name, where some
  halves stand for bytes that belong to no character;
* texts are ordered by their code points, `lt_trans` and `lt_of_not_lt`.
-/

namespace Nullability

/-- One code point. -/
inductive Letter where
  | char (c : Char)
  /-- The half of a surrogate pair, by its place among all halves. -/
  | half (i : Fin 0x800)
  deriving DecidableEq, Repr

namespace Letter

instance : Coe Char Letter := ⟨char⟩

instance : Inhabited Letter := ⟨char default⟩

/-- The number of a code point. -/
def toNat : Letter → Nat
  | char c => c.toNat
  | half i => 0xd800 + i

/-- The code point with a number. -/
def ofNat (n : Nat) : Letter :=
  if n.isValidChar then char (Char.ofNat n) else half (Fin.ofNat 0x800 (n - 0xd800))

instance : LE Letter := ⟨fun a b => a.toNat ≤ b.toNat⟩

instance (a b : Letter) : Decidable (a ≤ b) :=
  inferInstanceAs (Decidable (a.toNat ≤ b.toNat))

theorem le_iff {a b : Letter} : a ≤ b ↔ a.toNat ≤ b.toNat :=
  Iff.rfl

/-- Whether a code point is a character. -/
def isChar : Letter → Bool
  | char _ => true
  | half _ => false

/-- The character that a code point is. -/
def char? : Letter → Option Char
  | char c => some c
  | half _ => none

/-- The byte of a file name that a half stands for: a name whose bytes are no text is shown with
such a half for each byte that belongs to no character. -/
def strayByte? : Letter → Option UInt8
  | char _ => none
  | half i => if 0x480 ≤ i.val && i.val < 0x500 then some (UInt8.ofNat (i.val - 0x400)) else none

/-- The bytes of a code point in a file name. -/
def nameBytes : Letter → List UInt8
  | char c => String.utf8EncodeChar c
  | half i => (strayByte? (half i)).toList

/-- Whether there are bytes for a code point in file names. -/
def hasNameBytes (c : Letter) : Bool :=
  c.isChar || c.strayByte?.isSome

/-- Whether a code point can stand in a path. -/
def isNameable (c : Letter) : Bool :=
  c.hasNameBytes && c != char '\x00'

/-- The first half of a pair. -/
def isHigh (c : Letter) : Bool :=
  0xd800 ≤ c.toNat && c.toNat < 0xdc00

/-- The second half of a pair. -/
def isLow (c : Letter) : Bool :=
  0xdc00 ≤ c.toNat && c.toNat < 0xe000

/-- An ASCII digit. -/
def isDigit : Letter → Bool
  | char c => c.isDigit
  | half _ => false

/-- An ASCII letter or digit. -/
def isAlphanum : Letter → Bool
  | char c => c.isAlphanum
  | half _ => false

/-- The capital of an ASCII letter; anything else stays. -/
def toUpper : Letter → Letter
  | char c => c.toUpper
  | half i => half i

theorem toNat_lt_or_gt (c : Char) : c.toNat < 0xd800 ∨ 0xdfff < c.toNat ∧ c.toNat < 0x110000 :=
  c.valid

theorem toNat_char_ne (c : Char) (i : Fin 0x800) : c.toNat ≠ 0xd800 + i := by
  have hvalid := toNat_lt_or_gt c
  have hi := i.isLt
  omega

theorem toNat_inj {a b : Letter} : a.toNat = b.toNat ↔ a = b := by
  refine ⟨fun h => ?_, fun h => h ▸ rfl⟩
  cases a with
  | char c =>
      cases b with
      | char d => exact congrArg char (Char.toNat_inj.1 h)
      | half j => exact absurd h (toNat_char_ne c j)
  | half i =>
      cases b with
      | char d => exact absurd h.symm (toNat_char_ne d i)
      | half j =>
          have hij : (i : Nat) = j := by simpa [toNat] using h
          rw [Fin.ext hij]

theorem toNat_lt (c : Letter) : c.toNat < 0x110000 := by
  cases c with
  | char c =>
      have hvalid := toNat_lt_or_gt c
      simp only [toNat]
      omega
  | half i =>
      have hi := i.isLt
      simp only [toNat]
      omega

theorem isHigh_char (c : Char) : (char c).isHigh = false := by
  have hvalid := toNat_lt_or_gt c
  have hnot : ¬ (0xd800 ≤ (char c).toNat ∧ (char c).toNat < 0xdc00) := by
    simp only [toNat]
    omega
  simpa [isHigh] using hnot

theorem isLow_char (c : Char) : (char c).isLow = false := by
  have hvalid := toNat_lt_or_gt c
  have hnot : ¬ (0xdc00 ≤ (char c).toNat ∧ (char c).toNat < 0xe000) := by
    simp only [toNat]
    omega
  simpa [isLow] using hnot

theorem ofNat_toNat (c : Letter) : ofNat c.toNat = c := by
  cases c with
  | char c =>
      have hvalid : c.toNat.isValidChar := c.valid
      rw [toNat, ofNat, if_pos hvalid, Char.ofNat_toNat]
  | half i =>
      have hi := i.isLt
      have hinvalid : ¬ (0xd800 + i.val).isValidChar := by
        simp only [Nat.isValidChar]
        omega
      have hfin : Fin.ofNat 0x800 (0xd800 + i.val - 0xd800) = i :=
        Fin.ext (by simp)
      simp only [ofNat, toNat, if_neg hinvalid, hfin]

theorem toNat_le_of_isDigit {c : Letter} (h : c.isDigit = true) : c.toNat ≤ 0x39 := by
  cases c with
  | half i => exact absurd h Bool.false_ne_true
  | char c =>
      simp only [isDigit, Char.isDigit, Bool.and_eq_true, decide_eq_true_eq] at h
      exact h.2

@[simp]
theorem char_le_char {a b : Char} : char a ≤ char b ↔ a.toNat ≤ b.toNat :=
  Iff.rfl

@[simp]
theorem toNat_char (c : Char) : (char c).toNat = c.toNat :=
  rfl

end Letter

/-- A sequence of code points. -/
@[ext]
structure Text where
  ofList ::
  toList : List Letter
  deriving DecidableEq, Repr

namespace Text

/-- The text of a string. -/
@[coe]
def ofString (s : String) : Text :=
  ⟨s.toList.map .char⟩

instance : Coe String Text := ⟨ofString⟩

instance : Inhabited Text := ⟨⟨[]⟩⟩

instance : Append Text := ⟨fun s t => ⟨s.toList ++ t.toList⟩⟩

/-- Whether a text holds nothing. -/
def isEmpty (s : Text) : Bool :=
  s.toList.isEmpty

/-- The texts one after the other. -/
def join (texts : List Text) : Text :=
  ⟨texts.flatMap toList⟩

/-- The string of the characters of a text. -/
def chars (s : Text) : String :=
  String.ofList (s.toList.filterMap Letter.char?)

/-- The bytes of the characters of a text. -/
def toUTF8 (s : Text) : ByteArray :=
  s.chars.toUTF8

/-- The bytes of a file name. -/
def nameBytes (s : Text) : List UInt8 :=
  s.toList.flatMap Letter.nameBytes

/-- The number of bytes of a file name. -/
def nameSize (s : Text) : Nat :=
  s.nameBytes.length

@[simp]
theorem toList_ofList (cs : List Letter) : (ofList cs).toList = cs :=
  rfl

@[simp]
theorem ofList_nil : ofList [] = "" :=
  rfl

@[simp]
theorem ofList_toList (s : Text) : ofList s.toList = s :=
  rfl

@[simp]
theorem toList_append (s t : Text) : (s ++ t).toList = s.toList ++ t.toList :=
  rfl

@[simp]
theorem toList_ofString (s : String) : (s : Text).toList = s.toList.map .char :=
  rfl

@[simp]
theorem toList_join (texts : List Text) : (join texts).toList = texts.flatMap toList :=
  rfl

theorem toList_inj {s t : Text} : s.toList = t.toList ↔ s = t :=
  Text.ext_iff.symm

@[simp]
theorem ofList_inj {cs ds : List Letter} : ofList cs = ofList ds ↔ cs = ds :=
  Text.ext_iff

@[simp]
theorem toList_eq_nil_iff {s : Text} : s.toList = [] ↔ s = "" :=
  toList_inj (t := "")

@[simp]
theorem ofList_eq_ofString_iff {cs : List Letter} {s : String} :
    ofList cs = (s : Text) ↔ cs = s.toList.map .char :=
  ofList_inj

@[simp]
theorem ofString_inj {s t : String} : (s : Text) = (t : Text) ↔ s = t := by
  rw [← toList_inj, toList_ofString, toList_ofString,
    List.map_inj_right fun _ _ => Letter.char.inj, String.toList_inj]

@[simp]
theorem append_inj_right {s t u : Text} : s ++ t = s ++ u ↔ t = u := by
  simp [← toList_inj]

@[simp]
theorem append_inj_left {s t u : Text} : t ++ s = u ++ s ↔ t = u := by
  simp [← toList_inj]

theorem append_assoc (s t u : Text) : s ++ t ++ u = s ++ (t ++ u) := by
  simp [← toList_inj]

@[simp]
theorem append_empty (s : Text) : s ++ ("" : Text) = s := by
  simp [← toList_inj]

@[simp]
theorem empty_append (s : Text) : ("" : Text) ++ s = s := by
  simp [← toList_inj]

@[simp]
theorem toUTF8_append (s t : Text) : (s ++ t).toUTF8 = s.toUTF8 ++ t.toUTF8 := by
  simp [toUTF8, chars, String.toUTF8]

@[simp]
theorem toUTF8_empty : ("" : Text).toUTF8 = .empty :=
  rfl

@[simp]
theorem join_nil : join [] = "" :=
  rfl

theorem join_append (xs ys : List Text) : join (xs ++ ys) = join xs ++ join ys := by
  simp [← toList_inj]

@[simp]
theorem isEmpty_iff {s : Text} : s.isEmpty = true ↔ s = "" := by
  simp [isEmpty]

@[simp]
theorem isEmpty_eq_false_iff {s : Text} : s.isEmpty = false ↔ s ≠ "" := by
  simp [isEmpty]

/-! ## Order -/

instance : LT Text := ⟨fun s t => s.toList.map Letter.toNat < t.toList.map Letter.toNat⟩

instance : DecidableLT Text := fun s t =>
  inferInstanceAs (Decidable (s.toList.map Letter.toNat < t.toList.map Letter.toNat))

theorem lt_trans {s t u : Text} (h : s < t) (h' : t < u) : s < u :=
  List.lt_trans h h'

theorem lt_irrefl (s : Text) : ¬ s < s :=
  List.lt_irrefl _

instance : Std.Asymm fun s t : Text => s < t :=
  ⟨fun s _ h h' => lt_irrefl s (lt_trans h h')⟩

/-- Of two texts, one precedes the other unless they are the same. -/
theorem lt_of_not_lt {s t : Text} (h : ¬ s < t) (hne : s ≠ t) : t < s := by
  refine Decidable.byContradiction fun hlt => hne (toList_inj.1 ?_)
  exact (List.map_inj_right fun _ _ => Letter.toNat_inj.1).1
    (List.le_antisymm (List.not_lt.1 hlt) (List.not_lt.1 h))

end Text
end Nullability
