import Nullability.CommandLine.Arguments
import Nullability.Proofs.CommandLine.Words
import Nullability.Proofs.Json.Integers
import Nullability.Proofs.Text.Separators

/-!
# The reader of arguments

The reader that the program comes with reads the words behind its commands as they are meant.

* `CommandRule.IsRegular` says that the names of options cannot be taken for anything else;
* `parse_spelled`: the words of a regular command are sorted into its options and its path;
* `readInteger?_integerText`: an integer that is written in decimal is read;
* `reader_isFaithful`: the reader is faithful to the commands of the program.
-/

namespace Nullability

/-! ## Integers in decimal -/

namespace Text

theorem eq_of_isDigit {c : Letter} (h : Json.isDigit c = true) :
    isWhiteSpace c = false ∧ c.isDigit = true ∧ c ≠ '.' ∧ c ≠ '-' ∧ c ≠ '+' := by
  have hbounds : 0x30 ≤ c.toNat ∧ c.toNat ≤ 0x39 := by
    simpa [Json.isDigit, Letter.le_iff] using h
  have hall : ∀ n < 0x3a, 0x30 ≤ n → isWhiteSpace (.ofNat n) = false ∧
      (Letter.ofNat n).isDigit = true ∧ Letter.ofNat n ≠ '.' ∧ Letter.ofNat n ≠ '-' ∧
      Letter.ofNat n ≠ '+' := by
    decide
  simpa [Letter.ofNat_toNat] using hall c.toNat (by omega) hbounds.1

theorem stripped_of_forall {cs : List Letter} (h : ∀ c ∈ cs, isWhiteSpace c = false) :
    stripped cs = cs := by
  have hleft : ∀ cs : List Letter, (∀ c ∈ cs, isWhiteSpace c = false) →
      cs.dropWhile isWhiteSpace = cs := by
    intro cs h
    cases cs with
    | nil => rfl
    | cons c cs => simp [h c]
  rw [stripped, hleft cs h, hleft cs.reverse (by simpa using h), List.reverse_reverse]

theorem readDigits?_of_forall {value : Nat} {afterDigit : Bool} {cs : List Letter}
    (h : ∀ c ∈ cs, Json.isDigit c = true) (hne : cs ≠ [] ∨ afterDigit = true) :
    readDigits? value afterDigit cs =
      some (cs.foldl (fun value c => 10 * value + (c.toNat - 0x30)) value) := by
  induction cs generalizing value afterDigit with
  | nil => simpa [readDigits?] using hne
  | cons c cs ih =>
      have hdigit := (eq_of_isDigit (h c (by simp))).2.1
      simp [readDigits?, hdigit, ih (fun d hd => h d (by simp [hd])) (Or.inr rfl)]

theorem dropLeadingZeros_decimalDigits (n : Nat) :
    dropLeadingZeros (decimalDigits n) = decimalDigits n := by
  by_cases hn : n = 0
  · subst hn
    simp [decimalDigits_of_lt, dropLeadingZeros]
    decide
  · have hhead := Json.head?_decimalDigits hn
    unfold dropLeadingZeros
    split
    · next heq => simp [heq] at hhead
    · rfl

theorem dropZeroFraction_of_forall {cs : List Letter} (h : ∀ c ∈ cs, c ≠ '.') :
    dropZeroFraction cs = cs := by
  have hwhole : cs.takeWhile (· != .char '.') = cs := by
    rw [List.takeWhile_eq_self_iff]
    simpa using h
  simp [dropZeroFraction, hwhole]

theorem readNatural?_decimalDigits {n : Nat} (h : (decimalDigits n).length ≤ longestInteger) :
    readNatural? (decimalDigits n) = some n := by
  have hdigits : ∀ c ∈ decimalDigits n, Json.isDigit c = true := fun c =>
    Json.isDigit_of_mem_decimalDigits
  have hfraction := dropZeroFraction_of_forall fun c hc => (eq_of_isDigit (hdigits c hc)).2.2.1
  have hshort : ¬ longestInteger < (decimalDigits n).countP Letter.isDigit :=
    Nat.not_lt.2 (List.countP_le_length.trans h)
  have hread : readDigits? 0 false (decimalDigits n) = _ :=
    readDigits?_of_forall hdigits (Or.inl (decimalDigits_ne_nil n))
  rw [readNatural?, dropLeadingZeros_decimalDigits, hfraction]
  simp only [hshort, if_false, hread]
  exact congrArg some (Json.digitsValue_decimalDigits n)

/-- An integer that is written in decimal is read. -/
theorem readInteger?_integerText {n : Int} (h : IsShort n) :
    readInteger? (integerText n).toList = some n := by
  have hdigits : ∀ m, ∀ c ∈ decimalDigits m, Json.isDigit c = true := fun m c =>
    Json.isDigit_of_mem_decimalDigits
  have hspace : ∀ m, ∀ c ∈ decimalDigits m, isWhiteSpace c = false := fun m c hc =>
    (eq_of_isDigit (hdigits m c hc)).1
  cases n with
  | ofNat m =>
      have hread := readNatural?_decimalDigits (n := m) h
      have hstripped := stripped_of_forall (hspace m)
      rcases Json.decimalDigits_cons m with ⟨c, digits, hcons, hdigit⟩
      have hsign := (eq_of_isDigit hdigit).2.2.2
      rw [hcons] at hread hstripped
      simp [integerText, integerChars, hcons, readInteger?, hstripped, hsign, hread]
  | negSucc m =>
      have hread := readNatural?_decimalDigits (n := m + 1) h
      have hall : ∀ c ∈ .char '-' :: decimalDigits (m + 1), isWhiteSpace c = false := by
        simpa using ⟨by decide, hspace (m + 1)⟩
      have hstripped := stripped_of_forall hall
      simp [integerText, integerChars, readInteger?, hstripped, hread]
      omega

end Text

/-! ## Regular commands -/

/-- A name that starts like an option, is no sign for something else and holds no equals sign. -/
def OptionRule.IsName (name : Text) : Prop :=
  Arguments.isOption name = true ∧ name ≠ "--" ∧ name ≠ helpOption ∧ .char '=' ∉ name.toList

instance (name : Text) : Decidable (OptionRule.IsName name) :=
  inferInstanceAs (Decidable (_ ∧ _))

/-- The names that an option lets choose from. -/
def OptionKind.choices? : OptionKind → Option (List Text)
  | valued _ _ (.choice names) _ => some names
  | _ => none

namespace CommandRule

/-- The names of a command, of its options and of its parameters are told apart. -/
structure IsRegular (c : CommandRule) : Prop where
  name : Arguments.isOption c.name = false
  options : ∀ o ∈ c.options, ∀ name ∈ o.kind.names,
    OptionRule.IsName name ∧ c.takes? name = some o.kind.takesValue
  parameters : (c.place :: c.options.map OptionRule.parameter).Nodup

end CommandRule

namespace Arguments

variable {c : CommandRule} {words : List Word}

theorem split_of_not_mem {name : Text} (h : .char '=' ∉ name.toList) :
    split name = (name, none) := by
  have hpieces : Text.pieces [.char '='] name.toList = [name.toList] :=
    (Text.pieces_eq_singleton_iff (by simp) _).2 (by simpa [Text.singleton_infix_iff] using h)
  simp [split, Text.piecesOf, hpieces]

theorem split_joined {name value : Text} (h : .char '=' ∉ name.toList) :
    split (name ++ "=" ++ value) = (name, some value) := by
  have hsep : ("=" : Text).toList = [.char '='] := rfl
  have hpieces : Text.pieces [.char '='] (name ++ "=" ++ value).toList =
      name.toList :: Text.pieces [.char '='] value.toList := by
    rw [Text.toList_append, Text.toList_append, hsep,
      Text.pieces_append_eq_cons_iff (by simp)]
    simpa [Text.singleton_infix_iff] using h
  have hglue := Text.glue_pieces (show [.char '='] ≠ [] by simp) value.toList
  cases hrest : Text.pieces [.char '='] value.toList with
  | nil => exact absurd hrest (Text.pieces_ne_nil _)
  | cons piece pieces =>
      rw [hrest] at hglue hpieces
      simp only [split, Text.piecesOf, hsep, hpieces, List.map_cons, Text.glued]
      simp [Function.comp_def, hglue]

/-- The option of a word, as it is sorted. -/
def optionOf? : Word → Option (Text × Option Text)
  | .option name => some (name, none)
  | .valued name value | .joined name value => some (name, some value)
  | .place _ => none

/-! ## One word

No word starts with the sign that ends options, and the kind of its first argument is told by the
name in front. -/

theorem kind_of_option {name : Text} (hc : c.IsRegular) (hw : c.Declares (.option name)) :
    name ≠ "--" ∧ kind c name = .option name none := by
  rcases hw with ⟨o, ho, hbare, hname⟩
  rcases hc.options o ho name hname with ⟨⟨hoption, hends, -, hequals⟩, htakes⟩
  rw [hbare] at htakes
  exact ⟨hends, by simp [kind, hoption, split_of_not_mem hequals, htakes]⟩

theorem kind_of_valued {name value : Text} (hc : c.IsRegular)
    (hw : c.Declares (.valued name value)) : name ≠ "--" ∧ kind c name = .awaiting name := by
  rcases hw with ⟨o, ho, htext, hname⟩
  rcases hc.options o ho name hname with ⟨⟨hoption, hends, -, hequals⟩, htakes⟩
  rw [htext] at htakes
  exact ⟨hends, by simp [kind, hoption, split_of_not_mem hequals, htakes]⟩

theorem kind_of_joined {name value : Text} (hc : c.IsRegular)
    (hw : c.Declares (.joined name value)) :
    name ++ "=" ++ value ≠ "--" ∧
      kind c (name ++ "=" ++ value) = .option name (some value) := by
  rcases hw with ⟨o, ho, htext, hname⟩
  rcases hc.options o ho name hname with ⟨⟨hoption, -, -, hequals⟩, htakes⟩
  rw [htext] at htakes
  have hoption' : isOption (name ++ "=" ++ value) = true := by
    unfold isOption at hoption ⊢
    rw [Text.toList_append, Text.toList_append]
    split at hoption
    · next heq => simp [heq]
    · cases hoption
  refine ⟨?_, by simp [kind, hoption', split_joined hequals, htakes]⟩
  intro hends
  have hmem : .char '=' ∈ (name ++ "=" ++ value).toList := by simp
  rw [hends] at hmem
  exact absurd hmem (by decide)

theorem kind_of_place {path : Text} (hw : c.Declares (.place path)) :
    path ≠ "--" ∧ kind c path = .positional := by
  have hdash : path.toList.head? ≠ some (.char '-') := hw.1
  have hoption : isOption path = false := by
    unfold isOption
    split
    · next heq => simp [heq] at hdash
    · rfl
  refine ⟨?_, by simp [kind, hoption]⟩
  rintro rfl
  exact hdash rfl

/-! ## All words -/

theorem parse_spelled (hc : c.IsRegular) (hwords : ∀ w ∈ words, c.Declares w) :
    parse c (words.flatMap Word.spelled) =
      .ok ⟨words.filterMap optionOf?, words.filterMap Word.place?⟩ := by
  induction words with
  | nil => rfl
  | cons w words ih =>
      have hrest := ih fun v hv => hwords v (List.mem_cons_of_mem w hv)
      have hw := hwords w List.mem_cons_self
      -- Only the first argument of a word is looked at; a value behind it is taken as it stands.
      cases w with
      | option name =>
          rcases kind_of_option hc hw with ⟨hends, hkind⟩
          simp [Word.spelled, parse, hends, hkind, hrest, Except.map, addOption, optionOf?,
            Word.place?, List.filterMap_cons]
      | valued name value =>
          rcases kind_of_valued hc hw with ⟨hends, hkind⟩
          simp [Word.spelled, parse, hends, hkind, hrest, Except.map, addOption, optionOf?,
            Word.place?, List.filterMap_cons]
      | joined name value =>
          rcases kind_of_joined hc hw with ⟨hends, hkind⟩
          simp [Word.spelled, parse, hends, hkind, hrest, Except.map, addOption, optionOf?,
            Word.place?, List.filterMap_cons]
      | place path =>
          rcases kind_of_place hw with ⟨hends, hkind⟩
          simp [Word.spelled, parse, hends, hkind, hrest, Except.map, addPositional, optionOf?,
            Word.place?, List.filterMap_cons]

/-! ## Looking options up -/

theorem findSome?_sorted {α : Type} (f : Text × Option Text → Option α) :
    (words.filterMap optionOf?).reverse.findSome? f =
      words.reverse.findSome? fun w => (optionOf? w).bind f := by
  rw [← List.filterMap_reverse, ← List.head?_filterMap, List.filterMap_filterMap,
    List.head?_filterMap]

theorem value?_sorted (name : Text) (positional : List Text) :
    value? ⟨words.filterMap optionOf?, positional⟩ name = Word.lastText? words name := by
  rw [value?, findSome?_sorted, Word.lastText?]
  congr 1
  funext w
  cases w <;> simp [optionOf?, Word.textFor?]

/-- A switch is what the words say if it is not the name of an option with a value. -/
theorem choice_sorted {yes : Text} {no : Option Text} (default : Bool)
    (positional : List Text)
    (h : ∀ name value, Word.valued name value ∈ words ∨ Word.joined name value ∈ words →
      name ≠ yes ∧ some name ≠ no) :
    choice ⟨words.filterMap optionOf?, positional⟩ yes no default =
      Word.isOn words yes no default := by
  rw [choice, findSome?_sorted, Word.isOn, ← List.head?_filterMap, ← List.head?_filterMap]
  congr 2
  apply List.filterMap_congr
  intro w hw
  rw [List.mem_reverse] at hw
  cases w with
  | option name => rfl
  | place path => rfl
  | valued name value => simp [optionOf?, Word.turns?, h name value (Or.inl hw)]
  | joined name value => simp [optionOf?, Word.turns?, h name value (Or.inr hw)]

/-! ## The values of a call -/

variable {os : List OptionRule} {a : Arguments} {value : OptionRule → OptionValue}

theorem valuesOf_eq (h : ∀ o ∈ os, a.valueOf o.kind = .ok (value o)) :
    a.valuesOf os = .ok (os.map fun o => (o.parameter, value o)) := by
  induction os with
  | nil => rfl
  | cons o os ih =>
      have hfirst := h o (by simp)
      have hrest := ih fun p hp => h p (by simp [hp])
      simp [valuesOf, hfirst, hrest]

theorem lookup_values (hnodup : (os.map OptionRule.parameter).Nodup) {o : OptionRule}
    (ho : o ∈ os) : (os.map fun o => (o.parameter, value o)).lookup o.parameter =
      some (value o) := by
  induction os with
  | nil => cases ho
  | cons first os ih =>
      rw [List.map_cons, List.nodup_cons] at hnodup
      rw [List.map_cons, List.lookup_cons]
      rcases List.mem_cons.1 ho with rfl | hlater
      · simp
      · -- A later option has another parameter.
        have hne : (o.parameter == first.parameter) = false := by
          rw [beq_eq_false_iff_ne]
          intro heq
          exact hnodup.1 (heq ▸ List.mem_map_of_mem hlater)
        simp only [hne, ih hnodup.2 hlater]

theorem valueOf_sorted (hc : c.IsRegular) (hwords : ∀ w ∈ words, c.Declares w)
    (positional : List Text) {o : OptionRule} (ho : o ∈ c.options) {v : OptionValue}
    (hv : o.kind.valueIn? valueReader words = some v) :
    valueOf ⟨words.filterMap optionOf?, positional⟩ o.kind = .ok v := by
  cases hkind : o.kind with
  | switch yes no default =>
      have hother : ∀ name value, Word.valued name value ∈ words ∨
          Word.joined name value ∈ words → name ≠ yes ∧ some name ≠ no := by
        intro name value hw
        have hdeclares : ∃ o ∈ c.options, o.kind.takesValue = true ∧ name ∈ o.kind.names := by
          rcases hw with hw | hw <;> exact hwords _ hw
        rcases hdeclares with ⟨other, hother, htext, hmem⟩
        have htakes := (hc.options other hother name hmem).2
        rw [htext] at htakes
        -- No name is that of a switch and of an option with a value.
        rw [← not_or]
        intro hname
        have hswitch : name ∈ o.kind.names := by
          rw [hkind]
          simpa [OptionKind.names, eq_comm] using hname
        rw [(hc.options o ho name hswitch).2, hkind] at htakes
        cases htakes
      rw [hkind] at hv
      cases hv
      simp only [valueOf, choice_sorted default positional hother]
  | valued name letter type default =>
      rw [hkind] at hv
      simp only [OptionKind.valueIn?] at hv
      simp only [valueOf, value?_sorted]
      cases htext : Word.lastText? words name with
      | none =>
          simp only [htext, Option.some.injEq] at hv
          rw [hv]
      | some text =>
          simp only [htext] at hv
          simp only [hv]

theorem placeOf_sorted (hwords : c.Takes valueReader words)
    (options : List (Text × Option Text)) :
    placeOf ⟨options, words.filterMap Word.place?⟩ c = .ok (.text (c.placeIn words)) := by
  have hone := hwords.onePlace
  have hplace : words.findSome? Word.place? = (words.filterMap Word.place?).head? :=
    List.head?_filterMap.symm
  rw [CommandRule.placeIn, hplace]
  cases hpaths : words.filterMap Word.place? with
  | nil => rfl
  | cons path paths =>
      rw [hpaths] at hone
      obtain rfl : paths = [] := by simpa using hone
      have hmem : path ∈ words.filterMap Word.place? := by simp [hpaths]
      rcases List.mem_filterMap.1 hmem with ⟨w, hw, hpath⟩
      have hdeclares := hwords.declares w hw
      cases w with
      | place given =>
          cases hpath
          simp [placeOf, ValueReader.value?, hdeclares.2]
      | _ => cases hpath

theorem has_helpOption (hc : c.IsRegular) (hwords : ∀ w ∈ words, c.Declares w)
    (positional : List Text) :
    has ⟨words.filterMap optionOf?, positional⟩ helpOption = false := by
  rw [has, List.any_eq_false]
  rintro option hoption
  rcases List.mem_filterMap.1 hoption with ⟨w, hw, hname⟩
  have hdeclares := hwords w hw
  cases w with
  | place path => cases hname
  | option name | valued name value | joined name value =>
      rcases hdeclares with ⟨o, ho, -, hmem⟩
      cases hname
      simpa using (hc.options o ho name hmem).1.2.2.1

/-- The words of a regular command are read as they are meant. -/
theorem answerOf_spelled (hc : c.IsRegular) (hwords : c.Takes valueReader words) :
    ∃ values : Values,
      answerOf c (words.flatMap Word.spelled) = .ok (.call c.name values) ∧
      values.get c.place = .text (c.placeIn words) ∧
      ∀ o ∈ c.options, o.kind.valueIn? valueReader words = some (values.get o.parameter) := by
  let value := fun o : OptionRule => (o.kind.valueIn? valueReader words).getD .absent
  have hsome : ∀ o ∈ c.options, o.kind.valueIn? valueReader words = some (value o) := by
    intro o ho
    rcases Option.isSome_iff_exists.1 (hwords.usable o ho) with ⟨v, hv⟩
    simp [value, hv]
  have hvalues := valuesOf_eq fun o ho =>
    valueOf_sorted hc hwords.declares (words.filterMap Word.place?) ho (hsome o ho)
  have hparameters := List.nodup_cons.1 hc.parameters
  -- The path stands in front of the values of the options, and no option shares its parameter.
  refine ⟨(c.place, .text (c.placeIn words)) :: c.options.map fun o => (o.parameter, value o),
    ?_, ?_, ?_⟩
  · simp only [answerOf, parse_spelled hc hwords.declares, has_helpOption hc hwords.declares,
      placeOf_sorted hwords, hvalues]
    rfl
  · simp [Values.get]
  · intro o ho
    have hne : (o.parameter == c.place) = false := by
      rw [beq_eq_false_iff_ne]
      intro heq
      exact hparameters.1 (heq ▸ List.mem_map_of_mem ho)
    simp only [Values.get, List.lookup_cons, hne, lookup_values hparameters.2 ho, hsome o ho,
      Option.getD_some]

theorem isRegular_of_mem (hc : c ∈ Request.commands) : c.IsRegular := by
  have hall : ∀ c ∈ Request.commands, isOption c.name = false ∧
      (∀ o ∈ c.options, ∀ name ∈ o.kind.names,
        OptionRule.IsName name ∧ c.takes? name = some o.kind.takesValue) ∧
      (c.place :: c.options.map OptionRule.parameter).Nodup := by
    decide +kernel
  rcases hall c hc with ⟨hname, hoptions, hparameters⟩
  exact ⟨hname, hoptions, hparameters⟩

/-- Arguments that start with the name of a command are those of the command. -/
theorem answer_of_isRegular {commands : List CommandRule} (hc : c.IsRegular)
    (hfind : commands.find? (fun d => d.name = c.name) = some c) (args : List Text) :
    answer commands (c.name :: args) = answerOf c args := by
  have hhelp : c.name ≠ helpOption := by
    intro h
    have hname := hc.name
    rw [h] at hname
    exact absurd hname (by decide)
  have hends : c.name ≠ "--" := by
    intro h
    have hname := hc.name
    rw [h] at hname
    exact absurd hname (by decide)
  simp [answer, leading, hhelp, hends, hc.name, answerTo, hfind]

/-- The reader is faithful to the commands of the program. -/
theorem reader_isFaithful : reader.IsFaithful Request.commands := by
  have hfind : ∀ c ∈ Request.commands,
      Request.commands.find? (fun d => d.name = c.name) = some c := by
    decide +kernel
  constructor
  case read_spelled =>
    intro c hc words hwords
    have hregular := isRegular_of_mem hc
    rcases answerOf_spelled hregular hwords with ⟨values, hanswer, hplace, hoptions⟩
    exact ⟨values, (answer_of_isRegular hregular (hfind c hc) _).trans hanswer, hplace, hoptions⟩
  case isShort_integer =>
    intro text n h
    exact Text.isShort_of_readInteger? h
  case integer_integerText =>
    intro n h
    exact Text.readInteger?_integerText h
  case choice_upper =>
    intro c hc o ho name letter names default hkind chosen hchosen text hupper
    have hall : ∀ c ∈ Request.commands, ∀ o ∈ c.options, ∀ names ∈ o.kind.choices?,
        names = [LedgerFormat.delimited.name, LedgerFormat.jsonLines.name] := by
      decide +kernel
    obtain rfl := hall c hc o ho names (by simp [hkind, OptionKind.choices?])
    have hlongest : ∀ chosen ∈ [LedgerFormat.delimited.name, LedgerFormat.jsonLines.name],
        .char 'ſ' ∉ chosen.toList := by
      decide +kernel
    have htext : folded text = chosen.toList := by
      rw [← hupper, folded]
      apply List.map_congr_left
      intro c hc
      -- The long s is in no name of a format.
      have hlong : c ≠ 'ſ' := by
        rintro rfl
        have hmem : .char 'ſ' ∈ chosen.toList := by
          rw [← hupper]
          exact List.mem_map.2 ⟨'ſ', hc, by decide⟩
        exact hlongest chosen hchosen hmem
      simp [hlong]
    have hfound : ∀ chosen ∈ [LedgerFormat.delimited.name, LedgerFormat.jsonLines.name],
        [LedgerFormat.delimited.name, LedgerFormat.jsonLines.name].find?
          (fun name => folded name = chosen.toList) = some chosen := by
      decide +kernel
    simpa [reader, valueReader, htext] using hfound chosen hchosen

end Arguments
end Nullability
