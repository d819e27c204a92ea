import Mathlib.Algebra.Group.Nat.Defs
import Nullability.Json.Printer
import Nullability.Proofs.Json.Integers
import Nullability.Proofs.Json.Unpaired

/-!
# What is written as JSON is read back

The reader inverts `line` and `block` on the documents that are built from texts, truth values,
short integers, lists and tables whose keys differ, whether non-ASCII characters are kept or
escaped. Both layouts separate the parts of a list or a table by a comma and blanks, so a list and
a table are read back by one lemma each, whatever the blanks are.

* `charChars_cases`: the three ways in which a character is written;
* `readString?_charChars`: each character is read back, as itself or by its escape;
* `readBack_list`, `readBack_table`: a list and a table whose parts are read back;
* `readBack_lineChars`, `readBack_blockChars`: the value at the start of a text, given as many
  steps as it has characters;
* `read?_line`, `read?_block`: the whole text.
-/

namespace Nullability
namespace Json

/-! ## Numeric escapes -/

theorem hexValue?_hexDigit {n : Nat} (h : n < 16) : hexValue? (Text.hexDigit n) = some n := by
  revert n
  decide

theorem length_hexDigits (width n : Nat) : (Text.hexDigits width n).length = width := by
  induction width generalizing n with
  | zero => rfl
  | succ width ih => simp [Text.hexDigits, ih]

theorem hexNumber?_hexDigits {width n : Nat} (h : n < 16 ^ width) :
    hexNumber? (Text.hexDigits width n) = some n := by
  induction width generalizing n with
  | zero =>
      obtain rfl : n = 0 := by simpa using h
      rfl
  | succ width ih =>
      have hinit : hexNumber? (Text.hexDigits width (n / 16)) = some (n / 16) :=
        ih (by rw [Nat.pow_succ] at h; omega)
      have hlast : hexValue? (Text.hexDigit (n % 16)) = some (n % 16) :=
        hexValue?_hexDigit (Nat.mod_lt n (by decide))
      have hvalue : 16 * (n / 16) + n % 16 = n := Nat.div_add_mod n 16
      unfold hexNumber? at hinit ⊢
      rw [Text.hexDigits, List.foldl_append, hinit]
      simp [hlast, hvalue]

theorem unit?_hexDigits {n : Nat} (h : n < 0x10000) (rest : List Letter) :
    unit? (Text.hexDigits 4 n ++ rest) = some n := by
  have hlength := length_hexDigits 4 n
  have htake : (Text.hexDigits 4 n ++ rest).take 4 = Text.hexDigits 4 n :=
    List.take_left' hlength
  have hlong : 4 ≤ (Text.hexDigits 4 n ++ rest).length := by
    rw [List.length_append, hlength]
    omega
  rw [unit?, if_pos hlong, htake]
  exact hexNumber?_hexDigits (by simpa using h)

/-- What starts with one unit is read as that unit, unless it is the first half of a pair and the
second half follows. -/
theorem unitChar?_single {c : Letter} (h : c.toNat < 0x10000) {rest : List Letter}
    (hrest : c.isHigh = true → lowUnit? rest = none) :
    unitChar? (Text.hexDigits 4 c.toNat ++ rest) = some (c, 4) := by
  have hdrop : (Text.hexDigits 4 c.toNat ++ rest).drop 4 = rest :=
    List.drop_left' (length_hexDigits 4 _)
  rw [unitChar?, unit?_hexDigits h, hdrop, Option.map_some, c.ofNat_toNat]
  by_cases hhigh : c.isHigh = true
  · rw [hrest hhigh]
  · have hother : ¬ (0xd800 ≤ c.toNat ∧ c.toNat < 0xdc00) := by simpa [Letter.isHigh] using hhigh
    cases hlow : lowUnit? rest with
    | none => rfl
    | some low => simp [hother]

/-- A character with two units is read back from them. -/
theorem unitChar?_pair {c : Letter} (h : ¬ c.toNat < 0x10000) (rest : List Letter) :
    unitChar? (Text.hexDigits 4 (0xd800 + (c.toNat - 0x10000) / 0x400) ++
      .char '\\' :: .char 'u' :: Text.hexDigits 4 (0xdc00 + (c.toNat - 0x10000) % 0x400) ++ rest) =
      some (c, 10) := by
  -- The ten bits of either unit are put together again behind the offset of the pairs.
  have hbound := c.toNat_lt
  generalize hoffset : c.toNat - 0x10000 = offset
  have hhigh : 0xd800 + offset / 0x400 < 0xdc00 := by omega
  have hlow : 0xdc00 + offset % 0x400 < 0xe000 := by omega
  have hvalue : 0x10000 + 0x400 * (offset / 0x400) + offset % 0x400 = c.toNat := by omega
  have hdrop : ∀ tail : List Letter,
      (Text.hexDigits 4 (0xd800 + offset / 0x400) ++ tail).drop 4 = tail :=
    fun tail => List.drop_left' (length_hexDigits 4 _)
  have hsecond : lowUnit? (.char '\\' :: .char 'u' ::
      (Text.hexDigits 4 (0xdc00 + offset % 0x400) ++ rest)) = some (0xdc00 + offset % 0x400) := by
    simp [lowUnit?, unit?_hexDigits (show 0xdc00 + offset % 0x400 < 0x10000 by omega), hlow]
  rw [List.append_assoc, unitChar?, unit?_hexDigits (by omega), hdrop, List.cons_append,
    List.cons_append, hsecond]
  simp [hhigh, hvalue, c.ofNat_toNat]

/-! ## Strings -/

/-- The characters of an escape are passed over. -/
theorem readString?_length_append (body rest : List Letter) :
    readString? body.length (body ++ rest) = readString? 0 rest := by
  induction body with
  | nil => rfl
  | cons c body ih => simpa [readString?] using ih

theorem readString?_escape {body : List Letter} {c : Letter} {rest : List Letter}
    (h : escape? (body ++ rest) = some (c, body.length)) :
    readString? 0 (.char '\\' :: body ++ rest) =
      (readString? 0 rest).map fun (s, after) => (c :: s, after) := by
  simp [readString?, h, readString?_length_append]

theorem readString?_codeEscape {c : Letter} {rest : List Letter}
    (hrest : c.isHigh = true → lowUnit? rest = none) :
    readString? 0 (codeEscape c ++ rest) =
      (readString? 0 rest).map fun (s, after) => (c :: s, after) := by
  by_cases h : c.toNat < 0x10000
  · have hescape : escape? ((.char 'u' :: Text.hexDigits 4 c.toNat) ++ rest) = some (c, 5) := by
      simp [escape?, unitChar?_single h hrest]
    simp only [codeEscape, h, if_true, unitEscape]
    exact readString?_escape (by simpa [length_hexDigits] using hescape)
  · have hescape : escape? (.char 'u' :: (Text.hexDigits 4 (0xd800 + (c.toNat - 0x10000) / 0x400) ++
        .char '\\' :: .char 'u' :: Text.hexDigits 4 (0xdc00 + (c.toNat - 0x10000) % 0x400)) ++
          rest) =
        some (c, 11) := by
      simpa [escape?] using unitChar?_pair h rest
    simp only [codeEscape, h, if_false, unitEscape]
    exact readString?_escape (by simpa [length_hexDigits] using hescape)

/-- A character is written by a letter behind a backslash, by its units, or as it is. -/
theorem charChars_cases (ascii : Bool) (c : Letter) :
    (∃ letter ∈ [.char '"', .char '\\', .char 'n', .char 'r', .char 't', .char 'b', .char 'f'],
      charChars ascii c = [.char '\\', letter] ∧
        ∀ rest, escape? (letter :: rest) = some (c, 1)) ∨
      (charChars ascii c = codeEscape c ∧ (c.toNat < 0x20 ∨ ascii = true)) ∨
      (charChars ascii c = [c] ∧ c ≠ '"' ∧ c ≠ '\\' ∧ ¬ c.toNat < 0x20) := by
  unfold charChars
  -- One split for each character that has a letter of its own, in the order of the definition.
  split
  · next h => subst h; exact Or.inl ⟨'"', by decide, rfl, fun _ => rfl⟩
  split
  · next h => subst h; exact Or.inl ⟨'\\', by decide, rfl, fun _ => rfl⟩
  split
  · next h => subst h; exact Or.inl ⟨'n', by decide, rfl, fun _ => rfl⟩
  split
  · next h => subst h; exact Or.inl ⟨'r', by decide, rfl, fun _ => rfl⟩
  split
  · next h => subst h; exact Or.inl ⟨'t', by decide, rfl, fun _ => rfl⟩
  split
  · next h => subst h; exact Or.inl ⟨'b', by decide, rfl, fun _ => rfl⟩
  split
  · next h => subst h; exact Or.inl ⟨'f', by decide, rfl, fun _ => rfl⟩
  split
  · next hcontrol => exact Or.inr (Or.inl ⟨rfl, Or.inl hcontrol⟩)
  split
  · next hascii => exact Or.inr (Or.inl ⟨rfl, Or.inr (Bool.and_eq_true_iff.1 hascii).1⟩)
  · next hquote hslash _ _ _ _ _ hcontrol _ =>
    exact Or.inr (Or.inr ⟨rfl, hquote, hslash, hcontrol⟩)

/-- A written character is read back, as itself or by its escape, unless it is the first half of a
pair and the escape of the second half follows its own. -/
theorem readString?_charChars {ascii : Bool} {c : Letter} {rest : List Letter}
    (hrest : ascii = true → c.isHigh = true → lowUnit? rest = none) :
    readString? 0 (charChars ascii c ++ rest) =
      (readString? 0 rest).map fun (s, after) => (c :: s, after) := by
  rcases charChars_cases ascii c with ⟨letter, -, hchars, hescape⟩ | ⟨hchars, hcontrol | hascii⟩ |
    ⟨hchars, hquote, hslash, hcontrol⟩
  · rw [hchars]
    exact readString?_escape (hescape rest)
  · rw [hchars]
    refine readString?_codeEscape fun hhigh => ?_
    simp only [Letter.isHigh, Bool.and_eq_true, decide_eq_true_eq] at hhigh
    omega
  · rw [hchars]
    exact readString?_codeEscape (hrest hascii)
  · rw [hchars]
    simp [readString?, hquote, hslash, hcontrol]

/-- Only the second half of a pair is written as one. -/
theorem lowUnit?_charChars (ascii : Bool) {c : Letter} (h : c.isLow = false) (rest : List Letter) :
    lowUnit? (charChars ascii c ++ rest) = none := by
  rcases charChars_cases ascii c with
    ⟨letter, hmem, hchars, -⟩ | ⟨hchars, -⟩ | ⟨hchars, -, hslash, -⟩
  · have hletter : letter ≠ 'u' := by
      rintro rfl
      exact absurd hmem (by decide)
    simp [hchars, lowUnit?, hletter]
  · have hunits : ∀ n < 0x10000, ¬ (0xdc00 ≤ n ∧ n < 0xe000) → ∀ tail,
        lowUnit? (unitEscape n ++ tail) = none := by
      intro n hn hother tail
      have hnot : ∀ low ∈ some n, ¬ (0xdc00 ≤ low ∧ low < 0xe000) := by simpa using hother
      simpa [lowUnit?, unitEscape, unit?_hexDigits hn] using hnot
    rw [hchars, codeEscape]
    split
    · next hsmall => exact hunits _ hsmall (by simpa [Letter.isLow] using h) rest
    · have hbound := c.toNat_lt
      rw [List.append_assoc]
      exact hunits _ (by omega) (by omega) _
  · simp [hchars, lowUnit?, hslash]

/-- A written text is read back up to its closing quote. -/
theorem readString?_flatMap {ascii : Bool} {cs : List Letter} (h : ascii = true → IsUnpaired cs)
    (rest : List Letter) :
    readString? 0 (cs.flatMap (charChars ascii) ++ .char '"' :: rest) = some (cs, rest) := by
  induction cs with
  | nil => simp [readString?]
  | cons c cs ih =>
      have hnext : ascii = true → c.isHigh = true →
          lowUnit? (cs.flatMap (charChars ascii) ++ .char '"' :: rest) = none := by
        intro hascii hhigh
        cases cs with
        | nil => simp [lowUnit?]
        | cons d cs =>
            have hlow : d.isLow = false := by
              simpa [hhigh] using (List.isChain_cons_cons.1 (h hascii)).1
            rw [List.flatMap_cons, List.append_assoc]
            exact lowUnit?_charChars ascii hlow _
      have htail : ascii = true → IsUnpaired cs := by
        intro hascii
        cases cs with
        | nil => exact .nil
        | cons d cs => exact (List.isChain_cons_cons.1 (h hascii)).2
      rw [List.flatMap_cons, List.append_assoc, readString?_charChars hnext, ih htail]
      rfl

theorem readQuoted?_flatMap {ascii : Bool} {s : Text} (h : ascii = true → IsUnpaired s.toList)
    (rest : List Letter) :
    readQuoted? (s.toList.flatMap (charChars ascii) ++ .char '"' :: rest) = .ok (s, rest) := by
  simp [readQuoted?, readString?_flatMap h, Document.wellFormed, Except.map]

/-! ## Values -/

/-- The documents that are built from texts, truth values, short integers, lists and tables whose
keys differ. Where texts are escaped, two halves that stand side by side would make a pair. -/
inductive Textual (ascii : Bool) : Document → Prop where
  | text {s : Text} (h : ascii = true → IsUnpaired s.toList) : Textual ascii (.text s)
  | bool (b : Bool) : Textual ascii (.bool b)
  | integer {n : Int} (h : Text.IsShort n) : Textual ascii (.integer n)
  | list {items : List Document} (h : ∀ item ∈ items, Textual ascii item) :
      Textual ascii (.list items)
  | table {entries : List (Text × Document)} (hkeys : (entries.map Prod.fst).Nodup)
      (hnames : ∀ entry ∈ entries, ascii = true → IsUnpaired entry.1.toList)
      (h : ∀ entry ∈ entries, Textual ascii entry.2) : Textual ascii (.table entries)

/-- Nothing is lost of a document that is written in front of what may follow it, given as many
steps as it is written with characters. What is written starts neither with a blank nor with what
closes a list. -/
structure ReadBack (written : List Letter) (document : Document) : Prop where
  head : ∃ c tail, written = c :: tail ∧ isSpace c = false ∧ c ≠ ']'
  read : ∀ fuel rest, written.length ≤ fuel → Closes rest →
    readValue? fuel (written ++ rest) = .ok (document, rest)

/-- The same of an entry of a table: neither its name nor its value loses anything. -/
structure ReadsEntry (ascii : Bool) (write : Document → List Letter) (entry : Text × Document) :
    Prop where
  name : ascii = true → IsUnpaired entry.1.toList
  value : ReadBack (write entry.2) entry.2

theorem isSpace_nothing : ∀ c ∈ ([] : List Letter), isSpace c = true := by
  simp

theorem isSpace_blank : ∀ c ∈ [.char ' '], isSpace c = true := by
  simp [isSpace]

namespace ReadBack

variable {written : List Letter} {document : Document}

theorem skipSpace (h : ReadBack written document) (rest : List Letter) :
    skipSpace (written ++ rest) = written ++ rest := by
  rcases h.head with ⟨c, tail, rfl, hspace, -⟩
  exact skipSpace_cons hspace (tail ++ rest)

end ReadBack

/-! ## Lists and tables -/

theorem closes_append {gap : List Letter} (h : ∀ c ∈ gap, isSpace c = true) {c : Letter}
    (hc : c ∈ [.char ',', .char ']', .char '\x7d']) (rest : List Letter) :
    Closes (gap ++ c :: rest) := by
  cases gap with
  | nil => exact closes_cons (Or.inr hc) rest
  | cons blank gap => exact closes_cons (Or.inl (h blank (by simp))) (gap ++ c :: rest)

section Parts

variable {ascii : Bool} {gap closing : List Letter} {write : Document → List Letter}

theorem readItems?_following (hgap : ∀ c ∈ gap, isSpace c = true)
    (hclosing : ∀ c ∈ closing, isSpace c = true) {item : Document} {items : List Document}
    (h : ∀ d ∈ item :: items, ReadBack (write d) d) {fuel : Nat} (rest : List Letter)
    (hfuel : (write item ++ following gap write items).length + 1 ≤ fuel) :
    readItems? fuel (write item ++ (following gap write items ++ (closing ++ .char ']' :: rest))) =
      .ok (item :: items, rest) := by
  -- A step is spent on every item, and each item has at least a character of its own.
  induction items generalizing item fuel with
  | nil =>
      rcases Nat.exists_eq_add_of_le' (show 1 ≤ fuel by omega) with ⟨fuel, rfl⟩
      have hitem := (h item (by simp)).read fuel (closing ++ .char ']' :: rest)
        (by simpa [following] using hfuel) (closes_append hclosing (by decide) rest)
      have hclose : skipSpace (closing ++ .char ']' :: rest) = .char ']' :: rest := by
        rw [skipSpace_append hclosing, skipSpace_cons (by decide)]
      simp [readItems?, following, hitem, hclose]
  | cons next items ih =>
      rcases Nat.exists_eq_add_of_le' (show 1 ≤ fuel by omega) with ⟨fuel, rfl⟩
      simp only [following, List.flatMap_cons, List.length_append, List.length_cons] at hfuel
      have hitems : readItems? fuel
          (write next ++ (following gap write items ++ (closing ++ .char ']' :: rest))) =
          .ok (next :: items, rest) := by
        apply ih
        · intro d hd
          exact h d (List.mem_cons_of_mem item hd)
        · simp only [following, List.length_append]
          omega
      generalize htail : write next ++
          (following gap write items ++ (closing ++ .char ']' :: rest)) =
        tail at hitems
      have hitem := (h item (by simp)).read fuel (.char ',' :: (gap ++ tail)) (by omega)
        (closes_cons (by decide) _)
      have hcomma := skipSpace_cons (c := ',') (by decide) (gap ++ tail)
      have hblank : skipSpace (gap ++ tail) = tail := by
        rw [skipSpace_append hgap, ← htail]
        exact (h next (by simp)).skipSpace _
      have hshape : following gap write (next :: items) ++ (closing ++ .char ']' :: rest) =
          .char ',' :: (gap ++ tail) := by
        simp [← htail, following]
      rw [hshape, readItems?]
      simp only [hitem, hcomma, hblank, hitems]
      rfl

/-- What the text behind an entry of a table adds to it. -/
def readMore? (fuel : Nat) (entry : Text × Document) (rest : List Letter) :
    Reading (List (Text × Document)) :=
  match skipSpace rest with
  | .char ',' :: more =>
      (readEntries? fuel (skipSpace more)).map fun (entries, after) => (entry :: entries, after)
  | .char '\x7d' :: after => .ok ([entry], after)
  | _ => .error .malformed

theorem readEntries?_cons {entry : Text × Document} (h : ReadsEntry ascii write entry)
    {fuel : Nat} {rest : List Letter}
    (hfuel : (write entry.2).length ≤ fuel) (hrest : Closes rest) :
    readEntries? (fuel + 1) (entryChars ascii write entry ++ rest) =
      readMore? fuel entry rest := by
  rcases entry with ⟨key, value⟩
  have hkey := readQuoted?_flatMap h.name (.char ':' :: .char ' ' :: (write value ++ rest))
  have hcolon := skipSpace_cons (c := ':') (by decide) (.char ' ' :: (write value ++ rest))
  have hblank : skipSpace (.char ' ' :: (write value ++ rest)) = write value ++ rest := by
    have hskip : skipSpace ([.char ' '] ++ (write value ++ rest)) =
        skipSpace (write value ++ rest) :=
      skipSpace_append isSpace_blank _
    rw [h.value.skipSpace rest] at hskip
    exact hskip
  have hshape : entryChars ascii write (key, value) ++ rest =
      .char '"' :: (key.toList.flatMap (charChars ascii) ++
        .char '"' :: .char ':' :: .char ' ' :: (write value ++ rest)) := by
    simp [entryChars, stringChars]
  rw [hshape, readEntries?]
  simp only [hkey, hcolon, hblank, h.value.read fuel rest hfuel hrest]
  rfl

theorem readEntries?_following (hgap : ∀ c ∈ gap, isSpace c = true)
    (hclosing : ∀ c ∈ closing, isSpace c = true) {entry : Text × Document}
    {entries : List (Text × Document)}
    (h : ∀ e ∈ entry :: entries, ReadsEntry ascii write e) {fuel : Nat} (rest : List Letter)
    (hfuel : (write entry.2 ++ following gap (entryChars ascii write) entries).length + 1 ≤ fuel) :
    readEntries? fuel (entryChars ascii write entry ++
        (following gap (entryChars ascii write) entries ++ (closing ++ .char '\x7d' :: rest))) =
      .ok (entry :: entries, rest) := by
  -- As for lists; what is read behind a comma is the quote of a key, whatever the key.
  induction entries generalizing entry fuel with
  | nil =>
      rcases Nat.exists_eq_add_of_le' (show 1 ≤ fuel by omega) with ⟨fuel, rfl⟩
      have hclose : skipSpace (closing ++ .char '\x7d' :: rest) = .char '\x7d' :: rest := by
        rw [skipSpace_append hclosing, skipSpace_cons (by decide)]
      have hentry := readEntries?_cons (h entry (by simp))
        (by simpa [following] using hfuel)
        (closes_append hclosing (c := '\x7d') (by decide) rest)
      simp only [following, List.flatMap_nil, List.nil_append, hentry, readMore?, hclose]
  | cons next entries ih =>
      rcases Nat.exists_eq_add_of_le' (show 1 ≤ fuel by omega) with ⟨fuel, rfl⟩
      simp only [following, entryChars, List.flatMap_cons, List.length_append, List.length_cons]
        at hfuel
      have hentries : readEntries? fuel (entryChars ascii write next ++
          (following gap (entryChars ascii write) entries ++ (closing ++ .char '\x7d' :: rest))) =
          .ok (next :: entries, rest) := by
        apply ih
        · intro e he
          exact h e (List.mem_cons_of_mem _ he)
        · simp only [following, entryChars, List.length_append]
          omega
      have hquote : ∃ more, entryChars ascii write next ++
          (following gap (entryChars ascii write) entries ++ (closing ++ .char '\x7d' :: rest)) =
          .char '"' :: more := ⟨_, rfl⟩
      rcases hquote with ⟨more, hmore⟩
      rw [hmore] at hentries
      have hlength : (write entry.2).length ≤ fuel := by omega
      have hcloses : Closes (.char ',' :: (gap ++ .char '"' :: more)) := closes_cons (by decide) _
      have hentry := readEntries?_cons (h entry (by simp)) hlength hcloses
      have hcomma := skipSpace_cons (c := ',') (by decide) (gap ++ .char '"' :: more)
      have hblank : skipSpace (gap ++ .char '"' :: more) = .char '"' :: more := by
        rw [skipSpace_append hgap, skipSpace_cons (by decide)]
      have hshape : following gap (entryChars ascii write) (next :: entries) ++
          (closing ++ .char '\x7d' :: rest) = .char ',' :: (gap ++ .char '"' :: more) := by
        simp [← hmore, following]
      rw [hshape, hentry, readMore?, hcomma]
      simp only [hblank, hentries]
      rfl

end Parts

/-! ## Tables -/

theorem insert_eq_append {key : Text} {entries : List (Text × Document)}
    (h : key ∉ entries.map Prod.fst) (value : Document) :
    Document.insert key value entries = entries ++ [(key, value)] := by
  induction entries with
  | nil => rfl
  | cons entry entries ih =>
      rcases entry with ⟨k, v⟩
      simp only [List.map_cons, List.mem_cons, not_or] at h
      have hne : k ≠ key := fun heq => h.1 heq.symm
      simp [Document.insert, hne, ih h.2]

theorem foldl_insert_eq_append {entries done : List (Text × Document)}
    (h : ((done ++ entries).map Prod.fst).Nodup) :
    entries.foldl (fun done (key, value) => Document.insert key value done) done =
      done ++ entries := by
  induction entries generalizing done with
  | nil => simp
  | cons entry entries ih =>
      rcases entry with ⟨key, value⟩
      have hfresh : key ∉ done.map Prod.fst := by
        intro hmem
        simp only [List.map_append, List.map_cons] at h
        exact (List.nodup_append.1 h).2.2 key hmem key (by simp) rfl
      have hrest : (((done ++ [(key, value)]) ++ entries).map Prod.fst).Nodup := by
        simpa using h
      simp only [List.foldl_cons, insert_eq_append hfresh value]
      rw [ih hrest, List.append_assoc, List.singleton_append]

/-- A table whose keys differ keeps all its entries. -/
theorem ofEntries_eq_table {entries : List (Text × Document)}
    (h : (entries.map Prod.fst).Nodup) : Document.ofEntries entries = .table entries := by
  rw [Document.ofEntries, foldl_insert_eq_append (by simpa using h), List.nil_append]

/-! ## Values that are read back -/

theorem readBack_text {ascii : Bool} {s : Text} (h : ascii = true → IsUnpaired s.toList) :
    ReadBack (stringChars ascii s) (.text s) where
  head := ⟨'"', _, rfl, by decide, by decide⟩
  read fuel rest hfuel _ := by
    simp only [stringChars, List.length_cons, List.length_append] at hfuel ⊢
    rcases Nat.exists_eq_add_of_le' (show 1 ≤ fuel by omega) with ⟨fuel, rfl⟩
    have hquoted := readQuoted?_flatMap h rest
    simp [readValue?, hquoted, Except.map]

/-- A word or a number is read back if it does not start as another value does. -/
theorem readBack_atom {c : Letter} {tail : List Letter} {document : Document}
    (hc : isSpace c = false ∧ c ∉ [.char '"', .char '[', .char ']', .char '\x7b'])
    (hread : ∀ rest, Closes rest → readAtom? (c :: tail ++ rest) = .ok (document, rest)) :
    ReadBack (c :: tail) document where
  head := ⟨c, tail, rfl, hc.1, fun heq => hc.2 (by simp [heq])⟩
  read fuel rest hfuel hrest := by
    rcases Nat.exists_eq_add_of_le' (show 1 ≤ fuel by simp at hfuel; omega) with ⟨fuel, rfl⟩
    have hatom := hread rest hrest
    have hne := hc.2
    simp only [List.mem_cons, not_or] at hne
    rw [List.cons_append] at hatom ⊢
    rw [readValue?, hatom]
    · exact fun rest heq => hne.1 (List.cons.inj heq).1
    · exact fun rest heq => hne.2.1 (List.cons.inj heq).1
    · exact fun rest heq => hne.2.2.2.1 (List.cons.inj heq).1

theorem readBack_bool (ascii : Bool) (b : Bool) :
    ReadBack (atomChars ascii (.bool b)) (.bool b) := by
  cases b with
  | false => exact readBack_atom (by decide) fun _ _ => by simp [readAtom?, words]
  | true => exact readBack_atom (by decide) fun _ _ => by simp [readAtom?, words]

theorem readBack_integer {n : Int} (h : Text.IsShort n) :
    ReadBack (Text.integerChars n) (.integer n) := by
  have hread : ∀ rest, Closes rest →
      readAtom? (Text.integerChars n ++ rest) = .ok (.integer n, rest) := by
    intro rest hrest
    rw [readAtom?_integerChars n hrest, if_pos h]
  rcases integerChars_cons n with ⟨c, tail, heq, hfirst⟩
  rw [heq] at hread ⊢
  refine readBack_atom ?_ hread
  rcases hfirst with rfl | hdigit
  · decide +kernel
  · have hno : ∀ d ∈ [.char ' ', .char '\t', .char '\n', .char '\r', .char '"',
        .char '[', .char ']', .char '\x7b'], isDigit d = false := by
      simp [isDigit]
    have hother : c ∉ [.char ' ', .char '\t', .char '\n', .char '\r', .char '"',
        .char '[', .char ']', .char '\x7b'] := by
      intro hmem
      exact absurd hdigit (by simp [hno c hmem])
    simpa [isSpace, and_assoc] using hother

section Parts

variable {ascii : Bool} {opening gap closing : List Letter} {write : Document → List Letter}

theorem readBack_list (hopening : ∀ c ∈ opening, isSpace c = true)
    (hgap : ∀ c ∈ gap, isSpace c = true) (hclosing : ∀ c ∈ closing, isSpace c = true)
    {item : Document} {items : List Document} (h : ∀ d ∈ item :: items, ReadBack (write d) d) :
    ReadBack (.char '[' ::
        (opening ++ (write item ++ (following gap write items ++ (closing ++ [.char ']'])))))
      (.list (item :: items)) where
  head := ⟨'[', _, rfl, by decide, by decide⟩
  read fuel rest hfuel _ := by
    simp only [List.length_append, List.length_cons, List.length_nil] at hfuel
    rcases Nat.exists_eq_add_of_le' (show 1 ≤ fuel by omega) with ⟨fuel, rfl⟩
    have hitem := h item (by simp)
    have hlength : (write item ++ following gap write items).length + 1 ≤ fuel := by
      rw [List.length_append]
      omega
    have hread := readItems?_following hgap hclosing h rest hlength
    generalize htail : following gap write items ++ (closing ++ .char ']' :: rest) = tail at hread
    have hskip : skipSpace (opening ++ (write item ++ tail)) = write item ++ tail := by
      rw [skipSpace_append hopening, hitem.skipSpace]
    -- The first item does not look like the end of the list.
    have hhead : ∀ after, skipSpace (opening ++ (write item ++ tail)) ≠ .char ']' :: after := by
      rcases hitem.head with ⟨c, more, hc, -, hne⟩
      intro after
      rw [hskip, hc]
      simp [hne]
    have hvalue := readValue?_list fuel hhead
    rw [hskip, hread] at hvalue
    simpa [← htail, Except.map] using hvalue

theorem readBack_table (hopening : ∀ c ∈ opening, isSpace c = true)
    (hgap : ∀ c ∈ gap, isSpace c = true) (hclosing : ∀ c ∈ closing, isSpace c = true)
    {entry : Text × Document} {entries : List (Text × Document)}
    (hkeys : ((entry :: entries).map Prod.fst).Nodup)
    (h : ∀ e ∈ entry :: entries, ReadsEntry ascii write e) :
    ReadBack (.char '\x7b' :: (opening ++ (entryChars ascii write entry ++
        (following gap (entryChars ascii write) entries ++ (closing ++ [.char '\x7d'])))))
      (.table (entry :: entries)) where
  head := ⟨'\x7b', _, rfl, by decide, by decide⟩
  read fuel rest hfuel _ := by
    simp only [entryChars, List.length_append, List.length_cons, List.length_nil] at hfuel
    rcases Nat.exists_eq_add_of_le' (show 1 ≤ fuel by omega) with ⟨fuel, rfl⟩
    have hlength : (write entry.2 ++
        following gap (entryChars ascii write) entries).length + 1 ≤ fuel := by
      rw [List.length_append]
      omega
    have hread := readEntries?_following hgap hclosing h rest hlength
    -- A table that is not closed right away starts with the quote of its first key.
    have hquote : ∃ more, entryChars ascii write entry ++ (following gap (entryChars ascii write)
        entries ++ (closing ++ .char '\x7d' :: rest)) = .char '"' :: more := ⟨_, rfl⟩
    rcases hquote with ⟨more, hmore⟩
    have hskip : skipSpace (opening ++ .char '"' :: more) = .char '"' :: more := by
      rw [skipSpace_append hopening, skipSpace_cons (by decide)]
    have hvalue := readValue?_table fuel hskip
    rw [← hmore, hread] at hvalue
    simpa [Except.map, ofEntries_eq_table hkeys] using hvalue

theorem readBack_empty_list : ReadBack [.char '[', .char ']'] (.list []) where
  head := ⟨'[', _, rfl, by decide, by decide⟩
  read fuel rest hfuel _ := by
    simp only [List.length_cons] at hfuel
    rcases Nat.exists_eq_add_of_le' (show 1 ≤ fuel by omega) with ⟨fuel, rfl⟩
    have hclose := skipSpace_cons (c := ']') (by decide) rest
    simp [readValue?, hclose]

theorem readBack_empty_table : ReadBack [.char '\x7b', .char '\x7d'] (.table []) where
  head := ⟨'\x7b', _, rfl, by decide, by decide⟩
  read fuel rest hfuel _ := by
    simp only [List.length_cons] at hfuel
    rcases Nat.exists_eq_add_of_le' (show 1 ≤ fuel by omega) with ⟨fuel, rfl⟩
    have hclose := skipSpace_cons (c := '\x7d') (by decide) rest
    simp [readValue?, hclose]

end Parts

/-! ## The two layouts -/

theorem isSpace_newLine (level : Nat) : ∀ c ∈ newLine level, isSpace c = true := by
  intro c hc
  rcases List.mem_cons.1 hc with rfl | hblank
  · decide
  · obtain rfl := List.eq_of_mem_replicate hblank
    decide

/-- On one line. -/
theorem readBack_lineChars {ascii : Bool} {document : Document} (h : Textual ascii document) :
    ReadBack (lineChars ascii document) document := by
  induction h with
  | text h =>
      simpa only [lineChars, atomChars] using readBack_text h
  | bool b =>
      simpa only [lineChars] using readBack_bool ascii b
  | integer hshort =>
      simpa only [lineChars, atomChars] using readBack_integer hshort
  | @list items hitems ih =>
      cases items with
      | nil => simpa only [lineChars] using readBack_empty_list
      | cons item items =>
          have hlist := readBack_list isSpace_nothing isSpace_blank isSpace_nothing ih
          simpa [lineChars, lineItems_eq] using hlist
  | @table entries hkeys hnames hentries ih =>
      cases entries with
      | nil => simpa only [lineChars] using readBack_empty_table
      | cons entry entries =>
          have htable :=
            readBack_table isSpace_nothing isSpace_blank isSpace_nothing hkeys
              fun e he => ⟨hnames e he, ih e he⟩
          simpa [lineChars, lineEntries_eq, entryChars] using htable

/-- Over several lines. -/
theorem readBack_blockChars {ascii : Bool} (level : Nat) {document : Document}
    (h : Textual ascii document) : ReadBack (blockChars ascii level document) document := by
  induction h generalizing level with
  | text h =>
      simpa only [blockChars, atomChars] using readBack_text h
  | bool b =>
      simpa only [blockChars] using readBack_bool ascii b
  | integer hshort =>
      simpa only [blockChars, atomChars] using readBack_integer hshort
  | @list items hitems ih =>
      cases items with
      | nil => simpa only [blockChars] using readBack_empty_list
      | cons item items =>
          have hlist := readBack_list (isSpace_newLine (level + 1)) (isSpace_newLine (level + 1))
            (isSpace_newLine level) fun d hd => ih d hd (level + 1)
          simpa [blockChars, blockItems_eq] using hlist
  | @table entries hkeys hnames hentries ih =>
      cases entries with
      | nil => simpa only [blockChars] using readBack_empty_table
      | cons entry entries =>
          have htable := readBack_table (isSpace_newLine (level + 1))
            (isSpace_newLine (level + 1)) (isSpace_newLine level) hkeys
            fun e he => ⟨hnames e he, ih e he (level + 1)⟩
          simpa [blockChars, blockEntries_eq, entryChars] using htable

/-! ## Whole texts -/

theorem readChars?_of_readBack {written ending : List Letter} {document : Document}
    (h : ReadBack written document) (hending : ∀ c ∈ ending, isSpace c = true) :
    readChars? (written ++ ending) = .ok document := by
  have hend : skipSpace ending = [] := by
    rw [← List.append_nil ending, skipSpace_append hending]
    rfl
  have hcloses : Closes ending := by
    cases ending with
    | nil => exact closes_nil
    | cons c ending => exact closes_cons (Or.inl (hending c (by simp))) ending
  have hvalue := h.read ((written ++ ending).length + 1) ending
    (by rw [List.length_append]; omega) hcloses
  rw [readChars?, h.skipSpace, hvalue]
  simp [hend]

/-- What is written on a line is read back. -/
theorem read?_line {ascii : Bool} {document : Document} (h : Textual ascii document) :
    read? (line ascii document) = .ok document := by
  simpa [read?, line] using
    readChars?_of_readBack (readBack_lineChars h) isSpace_nothing

/-- What is written over several lines is read back, also in front of a line break. -/
theorem read?_block {document : Document} (h : Textual true document) :
    read? (block document ++ "\n") = .ok document := by
  have hend : ∀ c ∈ [.char '\n'], isSpace c = true := by simp [isSpace]
  simpa [read?, block] using readChars?_of_readBack (readBack_blockChars 0 h) hend

end Json
end Nullability
