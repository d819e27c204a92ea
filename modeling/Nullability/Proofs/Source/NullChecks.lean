import Nullability.Source.NullCheck

/-!
# The shapes of null checks

Which conditionals are null checks, stated by the shape of the test and the scope around it.

* `Expression.ComparesField`: a single comparison of a field of a name with the literal for no
  value;
* `SourceTree.IsMethodAround`: the scope right around a conditional is a method of a class;
* `SourceFunction.TakesFirst`: the first parameter that is given by position;
* `nullCheck?_eq_some_iff`: a null check is found where these three come together, and nowhere else;
* `nullCheck?_shapes`: hence neither the order of the operands nor the operator matters.
-/

namespace Nullability

/-! ## Tests -/

namespace Expression

/-- A single comparison, by one of two operators, of a field of a bare name with the literal for no
value, in either order. -/
inductive ComparesField (self field : Text) : Expression → Prop where
  | fieldFirst {text memberText nameText noneText operator : Text}
      (hoperator : operator = "==" ∨ operator = "is") :
      ComparesField self field (.comparison text (.member memberText (.name nameText self) field)
        [(operator, .constant noneText true)])
  | noneFirst {text memberText nameText noneText operator : Text}
      (hoperator : operator = "==" ∨ operator = "is") :
      ComparesField self field (.comparison text (.constant noneText true)
        [(operator, .member memberText (.name nameText self) field)])

theorem isNone_iff {e : Expression} : e.isNone = true ↔ ∃ text, e = .constant text true := by
  cases e <;> simp [isNone]

theorem fieldOfName?_eq_some_iff {e : Expression} {self field : Text} :
    e.fieldOfName? = some (self, field) ↔
      ∃ text nameText, e = .member text (.name nameText self) field := by
  unfold fieldOfName?
  split <;> simp_all

theorem nullOperators_contains_iff {operator : Text} :
    nullOperators.contains operator = true ↔ operator = "==" ∨ operator = "is" := by
  simp [nullOperators]

/-- The field that is compared with the literal, of a single comparison. -/
theorem comparedToNone?_bind_eq_some_iff {e : Expression} {self field : Text} :
    e.comparedToNone?.bind fieldOfName? = some (self, field) ↔ e.ComparesField self field := by
  constructor
  · intro h
    rcases Option.bind_eq_some_iff.1 h with ⟨compared, hcompared, hfield⟩
    rcases fieldOfName?_eq_some_iff.1 hfield with ⟨text, nameText, rfl⟩
    -- What is compared is a field, so the literal stands on the other side of the operator.
    unfold comparedToNone? at hcompared
    split at hcompared
    · next left operator right =>
      split at hcompared
      · next hcontains =>
        have hoperator := nullOperators_contains_iff.1 hcontains
        split at hcompared
        · next hright =>
          cases hcompared
          rcases isNone_iff.1 hright with ⟨noneText, rfl⟩
          exact .fieldFirst hoperator
        · split at hcompared
          · next hleft =>
            cases hcompared
            rcases isNone_iff.1 hleft with ⟨noneText, rfl⟩
            exact .noneFirst hoperator
          · cases hcompared
      · cases hcompared
    · cases hcompared
  · intro h
    cases h with
    | fieldFirst hoperator =>
        simp [comparedToNone?, nullOperators, hoperator, isNone, fieldOfName?]
    | noneFirst hoperator =>
        simp [comparedToNone?, nullOperators, hoperator, isNone, fieldOfName?]

variable {self field text operator : Text} {left right : Expression}

/-- The operands of a check can change places. -/
theorem ComparesField.swap
    (h : ComparesField self field (.comparison text left [(operator, right)])) (text' : Text) :
    ComparesField self field (.comparison text' right [(operator, left)]) := by
  cases h with
  | fieldFirst hoperator => exact .noneFirst hoperator
  | noneFirst hoperator => exact .fieldFirst hoperator

/-- Each of the operators can take the place of the other. -/
theorem ComparesField.exchange
    (h : ComparesField self field (.comparison text left [(operator, right)])) (text' : Text)
    {operator' : Text} (hoperator' : operator' = "==" ∨ operator' = "is") :
    ComparesField self field (.comparison text' left [(operator', right)]) := by
  cases h with
  | fieldFirst => exact .fieldFirst hoperator'
  | noneFirst => exact .noneFirst hoperator'

end Expression

/-! ## Methods -/

/-- The name of the first parameter that a function takes by position. Those that are taken by
position only come before the others. -/
inductive SourceFunction.TakesFirst (f : SourceFunction) (name : Text) : Prop where
  | positionalOnly {p : Parameter} {rest : List Parameter} (hfirst : f.positionalOnly = p :: rest)
      (hname : p.name = name) : TakesFirst f name
  | regular {p : Parameter} {rest : List Parameter} (hnone : f.positionalOnly = [])
      (hfirst : f.regular = p :: rest) (hname : p.name = name) : TakesFirst f name

theorem SourceFunction.takesFirst_iff {f : SourceFunction} {name : Text} :
    f.TakesFirst name ↔ ∃ p, f.positional.head? = some p ∧ name = p.name := by
  constructor
  · intro h
    cases h with
    | positionalOnly hfirst hname => exact ⟨_, by simp [positional, hfirst], hname.symm⟩
    | regular hnone hfirst hname => exact ⟨_, by simp [positional, hnone, hfirst], hname.symm⟩
  · rintro ⟨p, hhead, rfl⟩
    cases hpositional : f.positionalOnly with
    | nil =>
        rw [positional, hpositional, List.nil_append] at hhead
        rcases List.head?_eq_some_iff.1 hhead with ⟨rest, hfirst⟩
        exact .regular hpositional hfirst rfl
    | cons first rest =>
        rw [positional, hpositional, List.cons_append, List.head?_cons] at hhead
        cases hhead
        exact .positionalOnly hpositional rfl

namespace SourceTree

/-- The innermost scope around a conditional is a function that counts as a method and stands right
in the body of a class. -/
inductive IsMethodAround (t : SourceTree) (c : Conditional) (owner : SourceClass)
    (f : SourceFunction) : Prop where
  | intro {scope parent : Nat} (hscope : c.frame = some scope)
      (hfunction : t.functions[scope]? = some f) (hkind : f.kind = .method)
      (hparent : f.owner = some parent) (hclass : t.classes[parent]? = some owner) :
      IsMethodAround t c owner f

theorem methodAround?_eq_some_iff {t : SourceTree} {c : Conditional} {owner : SourceClass}
    {f : SourceFunction} : t.methodAround? c = some (owner, f) ↔ t.IsMethodAround c owner f := by
  simp only [methodAround?, Option.bind_eq_bind, Option.bind_eq_some_iff]
  constructor
  · rintro ⟨scope, hscope, g, hfunction, parent, hparent, d, hclass, hanswer⟩
    split at hanswer
    · next hkind =>
      cases hanswer
      exact .intro hscope hfunction hkind hparent hclass
    · cases hanswer
  · rintro ⟨hscope, hfunction, hkind, hparent, hclass⟩
    exact ⟨_, hscope, f, hfunction, _, hparent, owner, hclass, if_pos hkind⟩

/-! ## Null checks -/

/-- A conditional in a method of a class compares a field of what the method takes first with the
literal for no value. -/
def ChecksNull (t : SourceTree) (c : Conditional) (owner : SourceClass) (field : Text) : Prop :=
  ∃ method self, t.IsMethodAround c owner method ∧ method.TakesFirst self ∧
    c.test.ComparesField self field

variable {t : SourceTree} {c : Conditional}

theorem nullCheck?_eq_some_iff {owner : SourceClass} {field : Text} :
    t.nullCheck? c = some ⟨owner, field⟩ ↔ t.ChecksNull c owner field := by
  -- The test comes to an end before the scope is looked at.
  have hbind : t.nullCheck? c = (c.test.comparedToNone?.bind Expression.fieldOfName?).bind
      fun found => (t.methodAround? c).bind fun around => around.2.positional.head?.bind
        fun p => if found.1 = p.name then some ⟨around.1, found.2⟩ else none := by
    rw [Option.bind_assoc]
    rfl
  rw [hbind]
  simp only [Option.bind_eq_some_iff]
  constructor
  · rintro ⟨⟨self, checked⟩, hcompares, ⟨d, method⟩, haround, p, hhead, hanswer⟩
    split at hanswer
    · next hname =>
      cases hanswer
      exact ⟨method, self, methodAround?_eq_some_iff.1 haround,
        SourceFunction.takesFirst_iff.2 ⟨p, hhead, hname⟩,
        Expression.comparedToNone?_bind_eq_some_iff.1 (Option.bind_eq_some_iff.2 hcompares)⟩
    · cases hanswer
  · rintro ⟨method, self, haround, hfirst, hcompares⟩
    rcases SourceFunction.takesFirst_iff.1 hfirst with ⟨p, hhead, hname⟩
    exact ⟨(self, field),
      Option.bind_eq_some_iff.1 (Expression.comparedToNone?_bind_eq_some_iff.2 hcompares),
      (owner, method), methodAround?_eq_some_iff.2 haround, p, hhead, if_pos hname⟩

/-- Conditionals in one scope whose tests have the same shape are the same checks. -/
theorem nullCheck?_congr {c c' : Conditional} (hscope : c.frame = c'.frame)
    (htest : ∀ self field, c.test.ComparesField self field ↔ c'.test.ComparesField self field) :
    t.nullCheck? c = t.nullCheck? c' := by
  have haround : ∀ owner f, t.IsMethodAround c owner f ↔ t.IsMethodAround c' owner f := by
    intro owner f
    rw [← methodAround?_eq_some_iff, ← methodAround?_eq_some_iff, methodAround?, methodAround?,
      hscope]
  refine Option.ext ?_
  rintro ⟨owner, field⟩
  rw [nullCheck?_eq_some_iff, nullCheck?_eq_some_iff]
  simp only [ChecksNull, haround, htest]

/-- A conditional is a null check of a field in a class exactly when a single comparison of one of
the two operators has the literal for no value on one side and that field of a bare name on the
other, the innermost scope is a method right in the body of the class, and the name is that of the
first parameter that the method takes by position. Any other conditional is none. Nothing changes
when the operands are swapped, whatever the operator is, or when one operator is exchanged for the
other. -/
theorem nullCheck?_shapes (t : SourceTree) (c : Conditional) :
    (∀ owner field, t.nullCheck? c = some ⟨owner, field⟩ ↔ t.ChecksNull c owner field) ∧
    (t.nullCheck? c = none ↔ ∀ owner field, ¬ t.ChecksNull c owner field) ∧
    ∀ text text' left right operator,
      t.nullCheck? { c with test := .comparison text left [(operator, right)] } =
        t.nullCheck? { c with test := .comparison text' right [(operator, left)] } ∧
      t.nullCheck? { c with test := .comparison text left [("==", right)] } =
        t.nullCheck? { c with test := .comparison text' left [("is", right)] } := by
  refine ⟨fun owner field => nullCheck?_eq_some_iff, ?_, ?_⟩
  · rw [Option.eq_none_iff_forall_ne_some]
    constructor
    · intro h owner field hchecks
      exact h _ (nullCheck?_eq_some_iff.2 hchecks)
    · rintro h ⟨owner, field⟩ hfound
      exact h owner field (nullCheck?_eq_some_iff.1 hfound)
  · intro text text' left right operator
    refine ⟨nullCheck?_congr rfl fun self field => ⟨?_, ?_⟩,
      nullCheck?_congr rfl fun self field => ⟨?_, ?_⟩⟩
    · exact fun h => h.swap text'
    · exact fun h => h.swap text
    · exact fun h => h.exchange text' (Or.inr rfl)
    · exact fun h => h.exchange text (Or.inl rfl)

/-- The object of the method is taken by position only, before the parameter that has the usual
name. -/
example :
    let method : SourceFunction := { (default : SourceFunction) with
      kind := .method, owner := some 0, positionalOnly := [⟨"me", none⟩]
      regular := [⟨"self", none⟩] }
    let t : SourceTree := ⟨false, [default], [method], []⟩
    let checks (receiver : Text) : Conditional :=
      ⟨3, .comparison "" (.constant "None" true) [("is", .member "" (.name "" receiver) "owner")],
        some 0⟩
    (t.nullCheck? (checks "me")).map NullCheck.field = some "owner" ∧
      (t.nullCheck? (checks "self")).map NullCheck.field = none := by
  decide

end SourceTree
end Nullability
