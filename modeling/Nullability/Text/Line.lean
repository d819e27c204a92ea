import Nullability.Text.Letter

/-!
# Lines of text

Three readings of the line structure of a text.

* `splitLines` cuts a text at every character that ends a line, with a carriage return and the
  line feed after it taken together;
* `joinLines` flattens a text to one line: each run of such characters becomes one space;
* `unifyNewlines` is what reading a file in text mode does: carriage returns become line feeds.

What is written as one line is read as one because `flattened`, the characters that `joinLines`
is given by name, are those of the reader's class `isLineBreak`, as `mem_flattened_iff` says.
-/

namespace Nullability
namespace Text

/-- A character at which a text is cut into lines. -/
def isLineBreak (c : Letter) : Bool :=
  let n := c.toNat
  (0x0a ≤ n && n ≤ 0x0d) || (0x1c ≤ n && n ≤ 0x1e) || n == 0x85 || n == 0x2028 || n == 0x2029

/-- The lines of a text, without the characters that end them. A text that ends in a line break
has no further, empty line after it. -/
def splitLines : List Letter → List (List Letter)
  | [] => []
  | .char '\r' :: .char '\n' :: rest => [] :: splitLines rest
  | c :: rest =>
      if isLineBreak c then [] :: splitLines rest
      else
        match splitLines rest with
        | [] => [[c]]
        | line :: lines => (c :: line) :: lines

/-- The characters that a text on one line does without. -/
def flattened : List Letter :=
  ['\r', '\n', '\u2028', '\u2029', '\x0b', '\x0c', '\x1c', '\x1d', '\x1e', '\x85']

/-- The text on one line; `inRun` says that the character before was a line break, so that the
space for this run is already written. -/
def joinLinesFrom : Bool → List Letter → List Letter
  | _, [] => []
  | inRun, c :: rest =>
      if c ∈ flattened then
        if inRun then joinLinesFrom true rest else .char ' ' :: joinLinesFrom true rest
      else c :: joinLinesFrom false rest

/-- The text on one line: every run of line breaks becomes one space. -/
def joinLines (cs : List Letter) : List Letter :=
  joinLinesFrom false cs

/-- Carriage returns, alone or before a line feed, become line feeds. -/
def unifyNewlines : List Letter → List Letter
  | [] => []
  | .char '\r' :: .char '\n' :: rest => .char '\n' :: unifyNewlines rest
  | c :: rest => (if c = '\r' then '\n' else c) :: unifyNewlines rest

/-- The lines of a string. -/
def linesOf (s : Text) : List Text :=
  (splitLines s.toList).map Text.ofList

theorem isLineBreak_space : isLineBreak ' ' = false := by decide

/-- What is flattened is what ends a line, and nothing else. -/
theorem mem_flattened_iff {c : Letter} : c ∈ flattened ↔ isLineBreak c = true := by
  have heq : ∀ d : Letter, c = d ↔ c.toNat = d.toNat := fun d => Letter.toNat_inj.symm
  simp only [flattened, List.mem_cons, List.not_mem_nil, or_false, heq, isLineBreak,
    Bool.or_eq_true, Bool.and_eq_true, decide_eq_true_eq, beq_iff_eq, Letter.toNat_char,
    Char.reduceToNat]
  omega

theorem isLineBreak_of_mem_joinLinesFrom {c : Letter} {inRun : Bool} {cs : List Letter}
    (h : c ∈ joinLinesFrom inRun cs) : isLineBreak c = false := by
  induction cs generalizing inRun with
  | nil => simp [joinLinesFrom] at h
  | cons d rest ih =>
      by_cases hd : isLineBreak d = true
      · cases inRun with
        | true => exact ih (by simpa [joinLinesFrom, mem_flattened_iff, hd] using h)
        | false =>
            have h' : c = ' ' ∨ c ∈ joinLinesFrom true rest := by
              simpa [joinLinesFrom, mem_flattened_iff, hd] using h
            rcases h' with rfl | h'
            · exact isLineBreak_space
            · exact ih h'
      · have h' : c = d ∨ c ∈ joinLinesFrom false rest := by
          simpa [joinLinesFrom, mem_flattened_iff, hd] using h
        rcases h' with rfl | h'
        · simpa using hd
        · exact ih h'

/-- A flattened text holds no line break. -/
theorem isLineBreak_of_mem_joinLines {c : Letter} {cs : List Letter} (h : c ∈ joinLines cs) :
    isLineBreak c = false :=
  isLineBreak_of_mem_joinLinesFrom h

theorem mem_of_mem_joinLinesFrom {c : Letter} {inRun : Bool} {cs : List Letter}
    (h : c ∈ joinLinesFrom inRun cs) : c = ' ' ∨ c ∈ cs := by
  induction cs generalizing inRun with
  | nil => simp [joinLinesFrom] at h
  | cons d rest ih =>
      unfold joinLinesFrom at h
      have hrest : ∀ {run : Bool}, c ∈ joinLinesFrom run rest → c = ' ' ∨ c ∈ d :: rest :=
        fun hmem => (ih hmem).imp id (List.mem_cons_of_mem d)
      split at h
      · split at h
        · exact hrest h
        · exact (List.mem_cons.1 h).elim Or.inl hrest
      · rcases List.mem_cons.1 h with rfl | h
        · exact Or.inr List.mem_cons_self
        · exact hrest h

/-- Nothing but spaces comes into a flattened text. -/
theorem mem_of_mem_joinLines {c : Letter} {cs : List Letter} (h : c ∈ joinLines cs) :
    c = ' ' ∨ c ∈ cs :=
  mem_of_mem_joinLinesFrom h

end Text
end Nullability
