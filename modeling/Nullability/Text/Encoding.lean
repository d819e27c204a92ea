import Nullability.Text.Numeral
import Nullability.Text.Quoted

/-!
# Text encodings

How a text is kept in the bytes of a file. `utf8` covers every character; the two others cover an
initial part of the code points with one byte each.

* `Encoding.encode?` and `Encoding.decode?` are the two directions, `decode?_toUTF8` that what is
  written in UTF-8 reads back;
* `Encoding.complaint` is the message about a text that is not covered.
-/

namespace Nullability

/-- The encodings a file can be read and written in. -/
inductive Encoding where
  | utf8
  | latin1
  | ascii
  deriving DecidableEq, Repr

namespace Encoding

/-- The number of code points that an encoding covers, apart from the halves of surrogates. -/
def size : Encoding → Nat
  | utf8 => 0x110000
  | latin1 => 0x100
  | ascii => 0x80

/-- Whether the encoding covers a code point. -/
def takes (encoding : Encoding) (c : Letter) : Bool :=
  c.isChar && c.toNat < encoding.size

/-- Whether the encoding covers all code points of a text. -/
def covers (encoding : Encoding) (s : Text) : Bool :=
  s.toList.all encoding.takes

/-- The bytes of a text that the encoding covers. -/
def bytesOf (encoding : Encoding) (s : Text) : ByteArray :=
  match encoding with
  | utf8 => s.toUTF8
  | _ => ⟨(s.toList.map fun c => UInt8.ofNat c.toNat).toArray⟩

/-- The bytes of a text, if the encoding covers all its code points. -/
def encode? (encoding : Encoding) (s : Text) : Option ByteArray :=
  if encoding.covers s then some (encoding.bytesOf s) else none

/-- The text that bytes stand for, if they are well formed. -/
def decode? (encoding : Encoding) (bytes : ByteArray) : Option Text :=
  match encoding with
  | utf8 => (String.fromUTF8? bytes).map Text.ofString
  | _ =>
      if bytes.data.toList.all fun b => b.toNat < encoding.size then
        some (Text.ofList (bytes.data.toList.map fun b => .char (Char.ofNat b.toNat)))
      else none

/-! ## Texts that are not covered -/

/-- The name of an encoding in messages. -/
def codec : Encoding → Text
  | utf8 => "utf-8"
  | latin1 => "latin-1"
  | ascii => "ascii"

/-- What messages say of code points that an encoding does not cover. -/
def reason : Encoding → Text
  | utf8 => "surrogates not allowed"
  | latin1 => "ordinal not in range(256)"
  | ascii => "ordinal not in range(128)"

/-- The message about code points that stand in a text from a position on and are not covered. -/
def complaintAt (encoding : Encoding) (position : Nat) (uncovered : List Letter) : Text :=
  let place : Text :=
    match uncovered with
    | [c] =>
        "character '" ++ Text.ofList (Text.escapedCode c) ++ "' in position " ++
          Text.integerText position
    | _ =>
        "characters in position " ++ Text.integerText position ++ "-" ++
          Text.integerText (position + uncovered.length - 1 : Nat)
  "'" ++ encoding.codec ++ "' codec can't encode " ++ place ++ ": " ++ encoding.reason

/-- The message about a text that the encoding does not cover: about the first code points in a row
that it does not take. -/
def complaint (encoding : Encoding) (s : Text) : Text :=
  let covered := s.toList.takeWhile encoding.takes
  encoding.complaintAt covered.length
    ((s.toList.drop covered.length).takeWhile fun c => !encoding.takes c)

@[simp]
theorem covers_append (encoding : Encoding) (s t : Text) :
    encoding.covers (s ++ t) = (encoding.covers s && encoding.covers t) := by
  simp [covers]

/-! ## Reading back -/

theorem takes_utf8 (c : Letter) : utf8.takes c = c.isChar := by
  cases c with
  | half i => rfl
  | char c =>
      have hsize : c.toNat < 0x110000 := (Letter.char c).toNat_lt
      simp [takes, Letter.isChar, size, hsize]

theorem ofString_chars {s : Text} (h : utf8.covers s = true) : (s.chars : Text) = s := by
  refine Text.toList_inj.1 ?_
  have hchars : ∀ c ∈ s.toList, c.isChar = true := fun c hc => by
    simpa [takes_utf8] using List.all_eq_true.1 h c hc
  simp only [Text.chars, Text.toList_ofString, String.toList_ofList]
  generalize s.toList = cs at hchars
  induction cs with
  | nil => rfl
  | cons c rest ih =>
      have hrest := ih fun d hd => hchars d (List.mem_cons_of_mem c hd)
      cases c with
      | char c => simpa [Letter.char?] using hrest
      | half i => exact absurd (hchars _ List.mem_cons_self) Bool.false_ne_true

/-- What is written in UTF-8 reads back. -/
theorem decode?_toUTF8 {s : Text} (h : utf8.covers s = true) :
    decode? utf8 s.toUTF8 = some s := by
  have hread : String.fromUTF8? s.chars.toUTF8 = some s.chars := by
    simp only [String.fromUTF8?, String.toUTF8_eq_toByteArray, dif_pos s.chars.isValidUTF8]
    rfl
  rw [decode?, Text.toUTF8, hread, Option.map_some, ofString_chars h]

end Encoding
end Nullability
