import Nullability.Proofs.Config.WorkList
import Nullability.Proofs.Site.Position
import Nullability.Proofs.Source.Fields
import Nullability.Source.Signature

/-!
# Parameters of functions

A parameter is looked up twice: by its name, among the parameters of its function, and then by its
whole symbol, for its position. Both searches end at the same place, because what they find first
differs in name from everything before it.

* `Signature.Lists`: what a signature has at each place of the whole list;
* `Symbol.IsDeclared`: the symbol of a name with what the type on its declaration says;
* `getElem?_parameters_iff`: the parameters of a function are those of its signature, in order;
* `Method.NamesFirstAt`: where a method has a parameter of a name for the first time;
* `parameterSite?_of_signature`: the location of a parameter that is given by its name.
-/

namespace Nullability

/-! ## Signatures -/

/-- The place, the name and the type of every parameter. The groups follow each other, and the type
of a parameter is the one at its place in its own group, if the types reach that far. -/
inductive Signature.Lists (s : Signature) : Nat → Text → Option Expression → Prop where
  | positionalOnly {i : Nat} {name : Text} (h : s.positionalOnly[i]? = some name) :
      Lists s i name (s.positionalOnlyTypes[i]?).join
  | regular {i : Nat} {name : Text} (h : s.regular[i]? = some name) :
      Lists s (s.positionalOnly.length + i) name (s.regularTypes[i]?).join
  | variadic {name : Text} (h : s.variadic = some name) :
      Lists s (s.positionalOnly.length + s.regular.length) name s.variadicType
  | keywordOnly {i : Nat} {name : Text} (h : s.keywordOnly[i]? = some name) :
      Lists s (s.positionalOnly.length + s.regular.length + s.variadic.toList.length + i) name
        (s.keywordOnlyTypes[i]?).join
  | keywordVariadic {name : Text} (h : s.keywordVariadic = some name) :
      Lists s (s.positionalOnly.length + s.regular.length + s.variadic.toList.length +
        s.keywordOnly.length) name s.keywordVariadicType

/-! ## Lists in a row -/

theorem getElem?_append_eq_some_iff {α : Type} {xs ys : List α} {i : Nat} {a : α} :
    (xs ++ ys)[i]? = some a ↔
      xs[i]? = some a ∨ ∃ j, i = xs.length + j ∧ ys[j]? = some a := by
  constructor
  · intro h
    by_cases hi : i < xs.length
    · rw [List.getElem?_append_left hi] at h
      exact Or.inl h
    · rw [List.getElem?_append_right (by omega)] at h
      exact Or.inr ⟨i - xs.length, by omega, h⟩
  · rintro (h | ⟨j, rfl, h⟩)
    · rcases List.getElem?_eq_some_iff.1 h with ⟨hi, -⟩
      rwa [List.getElem?_append_left hi]
    · rwa [List.getElem?_append_right (by omega), Nat.add_sub_cancel_left]

theorem getElem?_toList_eq_some_iff {α : Type} {o : Option α} {i : Nat} {a : α} :
    o.toList[i]? = some a ↔ i = 0 ∧ o = some a := by
  cases o <;> cases i <;> simp

/-! ## The parameters of a signature -/

namespace Parameter

variable {names : List Text} {types : List (Option Expression)}

theorem length_paired : (paired names types).length = names.length := by
  simp [paired]
  omega

/-- A name that the types do not reach is paired with none. -/
theorem getElem?_paired (i : Nat) :
    (paired names types)[i]? = names[i]?.map fun name => ⟨name, (types[i]?).join⟩ := by
  rw [paired, List.getElem?_zipWith]
  cases hname : names[i]? with
  | none => rfl
  | some name =>
      rcases List.getElem?_eq_some_iff.1 hname with ⟨hi, -⟩
      by_cases htype : i < types.length
      · simp [List.getElem?_append_left htype, List.getElem?_eq_getElem htype]
      · have hpadding : i - types.length < names.length - types.length := by omega
        have hend : types.length ≤ i := by omega
        simp [List.getElem?_append_right hend, hpadding, List.getElem?_eq_none hend]

theorem map_mk_eq_some_iff {name? : Option Text} {type : Option Expression} {p : Parameter} :
    (name?.map fun name => (⟨name, type⟩ : Parameter)) = some p ↔
      name? = some p.name ∧ type = p.declaredType := by
  rw [Option.map_eq_some_iff]
  constructor
  · rintro ⟨name, hname, rfl⟩
    exact ⟨hname, rfl⟩
  · rintro ⟨hname, rfl⟩
    exact ⟨p.name, hname, rfl⟩

end Parameter

namespace SourceFunction

variable {f : SourceFunction} {s : Signature}

theorem getElem?_parameters_iff {i : Nat} {name : Text} {type : Option Expression} :
    (f.withSignature s).parameters[i]? = some ⟨name, type⟩ ↔ s.Lists i name type := by
  have hvariadic : (s.variadic.map fun name => (⟨name, s.variadicType⟩ : Parameter)).toList.length =
      s.variadic.toList.length := by
    rw [Option.toList_map, List.length_map]
  simp only [parameters, positional, withSignature, getElem?_append_eq_some_iff,
    getElem?_toList_eq_some_iff, Parameter.getElem?_paired, Parameter.map_mk_eq_some_iff,
    List.length_append, Parameter.length_paired, hvariadic]
  -- One alternative for each group.
  constructor
  · rintro ((((⟨h, rfl⟩ | ⟨j, rfl, h, rfl⟩) | ⟨j, rfl, rfl, h, rfl⟩) | ⟨j, rfl, h, rfl⟩) |
      ⟨j, rfl, rfl, h, rfl⟩)
    · exact .positionalOnly h
    · exact .regular h
    · exact .variadic h
    · exact .keywordOnly h
    · exact .keywordVariadic h
  · intro h
    cases h with
    | positionalOnly h => exact Or.inl (Or.inl (Or.inl (Or.inl ⟨h, rfl⟩)))
    | regular h => exact Or.inl (Or.inl (Or.inl (Or.inr ⟨_, rfl, h, rfl⟩)))
    | variadic h => exact Or.inl (Or.inl (Or.inr ⟨0, rfl, rfl, h, rfl⟩))
    | keywordOnly h => exact Or.inl (Or.inr ⟨_, rfl, h, rfl⟩)
    | keywordVariadic h => exact Or.inr ⟨0, rfl, rfl, h, rfl⟩

end SourceFunction

/-! ## Symbols -/

/-- The symbol of a declaration: its name, the text of the type on it with the metadata in it, and
the modifier for what is assigned once, if the type says so. -/
structure Symbol.IsDeclared (symbol : Symbol) (name : Text) (type : Option Expression) : Prop where
  name_eq : symbol.name = name
  unmarked : type = none → symbol.markers = []
  marked : ∀ t, type = some t →
    ∃ metadata, t.HasMetadata metadata ∧ symbol.markers = t.text :: metadata
  mem_modifiers_iff : ∀ modifier, modifier ∈ symbol.modifiers.toList ↔
    modifier = "final" ∧ ∃ t, type = some t ∧ t.SaysFinal

theorem Parameter.isDeclared_symbol (p : Parameter) :
    p.symbol.IsDeclared p.name p.declaredType := by
  rcases p with ⟨name, type⟩
  cases type with
  | none =>
      refine ⟨rfl, fun _ => rfl, ?_, by simp [symbol, Symbol.declared, NameSet.empty]⟩
      intro t ht
      cases ht
  | some t =>
      refine ⟨rfl, ?_, ?_, ?_⟩
      · intro h
        cases h
      · rintro _ ⟨rfl⟩
        exact ⟨t.metadata, Expression.hasMetadata_iff.2 rfl, by simp [symbol, Symbol.declared]⟩
      intro modifier
      cases hfinal : t.isFinal with
      | true =>
          have hsays := (Expression.isFinal_iff t).1 hfinal
          simp [symbol, Symbol.declared, hfinal, hsays, finalModifiers, NameSet.mem_ofList]
      | false =>
          have hsays : ¬ t.SaysFinal := by simp [← Expression.isFinal_iff, hfinal]
          simp [symbol, Symbol.declared, hfinal, hsays, NameSet.empty]

/-- A declaration has one symbol. -/
theorem Symbol.IsDeclared.unique {a b : Symbol} {name : Text} {type : Option Expression}
    (ha : a.IsDeclared name type) (hb : b.IsDeclared name type) : a = b := by
  have hmodifiers : a.modifiers = b.modifiers :=
    NameSet.ext_mem fun x => (ha.mem_modifiers_iff x).trans (hb.mem_modifiers_iff x).symm
  have hname := ha.name_eq.trans hb.name_eq.symm
  have hmarkers : a.markers = b.markers := by
    cases type with
    | none => rw [ha.unmarked rfl, hb.unmarked rfl]
    | some t =>
        rcases ha.marked t rfl with ⟨metadata, hmetadata, hmarkers⟩
        rcases hb.marked t rfl with ⟨metadata', hmetadata', hmarkers'⟩
        rw [hmarkers, hmarkers', Expression.hasMetadata_iff.1 hmetadata,
          Expression.hasMetadata_iff.1 hmetadata']
  cases a
  cases b
  simp_all

namespace SourceFunction

variable {f : SourceFunction} {s : Signature}

/-- The parameters of a method are the symbols of its signature, in its order. -/
theorem getElem?_asMethod_parameters_iff {i : Nat} {symbol : Symbol} :
    (f.withSignature s).asMethod.parameters[i]? = some symbol ↔
      ∃ name type, s.Lists i name type ∧ symbol.IsDeclared name type := by
  simp only [asMethod, List.getElem?_map, Option.map_eq_some_iff]
  constructor
  · rintro ⟨p, hp, rfl⟩
    exact ⟨p.name, p.declaredType, getElem?_parameters_iff.1 hp, p.isDeclared_symbol⟩
  · rintro ⟨name, type, hlists, hdeclared⟩
    have hself := Parameter.isDeclared_symbol ⟨name, type⟩
    exact ⟨_, getElem?_parameters_iff.2 hlists, hself.unique hdeclared⟩

end SourceFunction

/-! ## Looking a parameter up by its name -/

/-- The method has a symbol of the name at a position, and none of that name before it. -/
def Method.NamesFirstAt (m : Method) (name : Text) (i : Nat) (symbol : Symbol) : Prop :=
  m.parameters[i]? = some symbol ∧ symbol.name = name ∧
    ∀ j < i, ∀ other, m.parameters[j]? = some other → other.name ≠ name

/-- Everything in front of the first symbol of a name differs from it already in name. -/
theorem Method.NamesFirstAt.declaresFirstAt {m : Method} {name : Text} {i : Nat}
    {symbol : Symbol} (h : m.NamesFirstAt name i symbol) : m.DeclaresFirstAt symbol i := by
  rcases h with ⟨hat, hname, hbefore⟩
  exact ⟨hat, fun j hj hsame => hbefore j hj symbol hsame hname⟩

/-- What the search for a name gives. -/
theorem SourceFunction.parameterSymbol_cases (f : SourceFunction) (name : Text) :
    (∃ i, f.asMethod.NamesFirstAt name i (f.parameterSymbol name)) ∨
      (∀ p ∈ f.asMethod.parameters, p.name ≠ name) ∧ f.parameterSymbol name = .bare name := by
  cases hfind : f.asMethod.parameters.find? fun s => s.name = name with
  | none =>
      refine Or.inr ⟨by simpa using hfind, ?_⟩
      rw [parameterSymbol, hfind, Option.getD_none]
  | some symbol =>
      have hsymbol : f.parameterSymbol name = symbol := by
        rw [parameterSymbol, hfind, Option.getD_some]
      rcases List.find?_eq_some_iff_getElem.1 hfind with ⟨hname, i, hi, hat, hbefore⟩
      refine Or.inl ⟨i, ?_⟩
      rw [hsymbol]
      refine ⟨List.getElem?_eq_some_iff.2 ⟨hi, hat⟩, by simpa using hname, ?_⟩
      intro j hj other hother
      rcases List.getElem?_eq_some_iff.1 hother with ⟨hlt, rfl⟩
      simpa using hbefore j hj

namespace SourceModule

variable {m : SourceModule}

theorem siteIn?_of_unusable (h : m.home.hasUnusablePath = true) (f : SourceFunction)
    (member : Member)
    (target : Option Symbol) : m.siteIn? f member target = .error m.home.refusal := by
  simp [siteIn?, ModuleHome.unit?, h, Except.map]

theorem siteIn?_of_usable (h : m.home.hasUnusablePath = false) (f : SourceFunction)
    (member : Member)
    (target : Option Symbol) :
    m.siteIn? f member target =
      .ok ⟨⟨m.home.package, m.home.uri⟩, some (m.ownerOf f), member, target, 0, f.line,
        f.column⟩ := by
  simp [siteIn?, ModuleHome.unit?, h, Except.map]

/-- The parameters of a function are those that its signature lists, in the order of the groups,
each once and with what the type written on it says. The location of a name among them is a
parameter of that method: the first one of the name, at its position, or else a bare symbol at `-1`.
There is a location in every file but one without an address. -/
theorem parameterSite?_of_signature (m : SourceModule) (f : SourceFunction) (s : Signature)
    (name : Text) :
    let g := f.withSignature s
    (∀ i symbol, g.asMethod.parameters[i]? = some symbol ↔
      ∃ declared type, s.Lists i declared type ∧ symbol.IsDeclared declared type) ∧
    (m.home.hasUnusablePath = true → m.parameterSite? g name = .error m.home.refusal) ∧
    (m.home.hasUnusablePath = false → ∃ l, m.parameterSite? g name = .ok l ∧
      l.kind = .parameter ∧ l.method? = some g.asMethod ∧
      ((∃ i symbol, g.asMethod.NamesFirstAt name i symbol ∧
          l.index = i ∧ l.target = some symbol) ∨
        ((∀ symbol ∈ g.asMethod.parameters, symbol.name ≠ name) ∧
          l.index = -1 ∧ l.target = some (.bare name)))) := by
  intro g
  refine ⟨fun i symbol => SourceFunction.getElem?_asMethod_parameters_iff,
    fun h => siteIn?_of_unusable h _ _ _, ?_⟩
  intro husable
  refine ⟨_, siteIn?_of_usable husable _ _ _, rfl, rfl, ?_⟩
  -- The position is looked for by the whole symbol, but found where the name was found.
  rcases g.parameterSymbol_cases name with ⟨i, hfirst⟩ | ⟨habsent, hbare⟩
  · exact Or.inl ⟨i, _, hfirst, Method.indexOf_eq_natCast_iff.2 hfirst.declaresFirstAt, rfl⟩
  · have hnone : Symbol.bare name ∉ g.asMethod.parameters := fun hmem => habsent _ hmem rfl
    rw [hbare]
    exact Or.inr ⟨habsent, Method.indexOf_eq_neg_one_iff.2 hnone, rfl⟩

end SourceModule

/-- The types of the regular parameters end before their names do, and the last parameter carries
metadata. -/
example :
    let named (name : Text) : Expression := .name name name
    let marked : Expression := .subscript "Annotated[Final, mark]" (named "Annotated")
      (.tuple "Final, mark" [named "Final", named "mark"])
    let s : Signature := { (default : Signature) with
      positionalOnly := ["self"]
      regular := ["key", "fallback"]
      regularTypes := [some (named "str")]
      keywordOnly := ["limit"]
      keywordOnlyTypes := [some marked] }
    ((default : SourceFunction).withSignature s).asMethod.parameters =
      [.bare "self", ⟨"key", ["str"], NameSet.empty⟩, .bare "fallback",
        ⟨"limit", ["Annotated[Final, mark]", "mark"], finalModifiers⟩] := by
  decide

end Nullability
