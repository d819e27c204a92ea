import Nullability.Proofs.Site.Position

/-!
# How a location is made

A location is made from loose parts or by one of four factories, and every factory is a way to
give the parts. What does not fit together is refused; what is made has the parts that were given,
and a parameter the position that follows from them.

* `Location.Recipe` is a way to make a location, `Location.Recipe.make?` what comes of it;
* `Location.Misfit`: the parts that are refused, and why;
* `Location.IsBuilt` is a location that one of the four factories gives;
* `Location.Positioned`: the position of a parameter agrees with the look-up of its symbol;
* `make?_positioned`: both, for every recipe.
-/

namespace Nullability
namespace Location

/-! ## Recipes -/

/-- A way to make a location: from loose parts, or by the factory of one kind. -/
inductive Recipe where
  | loose (kind : GivenKind) (method : Option Method) (target : Option Symbol) (givenIndex : Int)
  | field (target : Option Symbol)
  | parameter (method : Option Method) (target : Option Symbol)
  | result (method : Option Method)
  | localVariable (method : Option Method) (target : Option Symbol)

namespace Recipe

/-- The kind that a recipe asks for. -/
def kind : Recipe → GivenKind
  | loose kind _ _ _ => kind
  | field _ => .known .field
  | parameter _ _ => .known .parameter
  | result _ => .known .result
  | localVariable _ _ => .known .localVariable

/-- The method that a recipe is given. -/
def method? : Recipe → Option Method
  | loose _ method _ _ => method
  | field _ => none
  | parameter method _ => method
  | result method => method
  | localVariable method _ => method

/-- The symbol that a recipe is given. -/
def target : Recipe → Option Symbol
  | loose _ _ target _ => target
  | field target => target
  | parameter _ target => target
  | result _ => none
  | localVariable _ target => target

/-- The position that a recipe is given; a factory is given none. -/
def givenIndex? : Recipe → Option Int
  | loose _ _ _ givenIndex => some givenIndex
  | _ => none

/-- What comes of a recipe. -/
def make? (r : Recipe) (source : SourceUnit) (owner : Option ClassName) (line column : Option Int) :
    Except LocationError Location :=
  match r with
  | loose kind method target givenIndex =>
      ofParts? kind source owner method target givenIndex line column
  | field target => .ok (ofField source owner target line column)
  | parameter method target => ofParameter? source owner method target line column
  | result method => ofResult? source owner method line column
  | localVariable method target => ofLocal? source owner method target line column

/-- A factory makes what comes of its parts. -/
theorem make?_eq_ofParts? (r : Recipe) (source : SourceUnit) (owner : Option ClassName)
    (line column : Option Int) :
    r.make? source owner line column =
      ofParts? r.kind source owner r.method? r.target (r.givenIndex?.getD 0) line column := by
  cases r <;> rfl

end Recipe

/-! ## Parts that do not fit -/

/-- A kind and a method that do not make a location: the kind is none, or it does not go with the
method, or with there being no method. -/
inductive Misfit (kind : GivenKind) (method : Option Method) : LocationError → Prop where
  | unknownKind {given : Text} (hkind : kind = .other given) :
      Misfit kind method (.unknownKind given)
  | fieldInMethod (hkind : kind = .known .field) (hmethod : method ≠ none) :
      Misfit kind method .fieldInMethod
  | methodMissing {known : SiteKind} (hkind : kind = .known known) (hother : known ≠ .field)
      (hmethod : method = none) : Misfit kind method (.methodMissing known)

variable {kind : GivenKind} {source : SourceUnit} {owner : Option ClassName}
  {method : Option Method} {target : Option Symbol} {givenIndex : Int} {line column : Option Int}
  {l : Location}

theorem member?_eq_error_iff {known : SiteKind} {e : LocationError} :
    member? known method = .error e ↔ Misfit (.known known) method e := by
  constructor
  · intro h
    -- Four of the eight pairs are refused.
    cases known <;> cases method <;> cases h
    · exact .fieldInMethod rfl (by simp)
    · exact .methodMissing rfl (by decide) rfl
    · exact .methodMissing rfl (by decide) rfl
    · exact .methodMissing rfl (by decide) rfl
  · intro h
    cases h with
    | unknownKind hkind => cases hkind
    | fieldInMethod hkind hmethod =>
        cases hkind
        cases method with
        | none => exact absurd rfl hmethod
        | some m => rfl
    | methodMissing hkind hother hmethod =>
        cases hkind
        subst hmethod
        cases known with
        | field => exact absurd rfl hother
        | _ => rfl

theorem parts_of_member? {known : SiteKind} {member : Member}
    (h : member? known method = .ok member) : member.kind = known ∧ member.method? = method := by
  cases known <;> cases method <;> cases h <;> exact ⟨rfl, rfl⟩

theorem ofParts?_eq_error_iff {e : LocationError} :
    ofParts? kind source owner method target givenIndex line column = .error e ↔
      Misfit kind method e := by
  cases kind with
  | other given =>
      constructor
      · intro h
        cases h
        exact .unknownKind rfl
      · intro h
        cases h with
        | unknownKind hkind =>
            cases hkind
            rfl
        | fieldInMethod hkind => cases hkind
        | methodMissing hkind => cases hkind
  | known known =>
      rw [← member?_eq_error_iff, ofParts?, build?]
      cases member? known method <;> simp [Except.map]

/-- What is made has the parts that were given. -/
theorem parts_of_build? {known : SiteKind}
    (h : build? known source owner method target givenIndex line column = .ok l) :
    l.kind = known ∧ l.method? = method ∧ l.target = target ∧ l.givenIndex = givenIndex := by
  rw [build?] at h
  cases hmember : member? known method with
  | error e => simp [hmember, Except.map] at h
  | ok member =>
      have hl : (⟨source, owner, member, target, givenIndex, line, column⟩ : Location) = l := by
        simpa [hmember, Except.map] using h
      subst hl
      rcases parts_of_member? hmember with ⟨hkind, hmethod⟩
      exact ⟨hkind, hmethod, rfl, rfl⟩

theorem parts_of_ofParts?
    (h : ofParts? kind source owner method target givenIndex line column = .ok l) :
    kind = .known l.kind ∧ l.method? = method ∧ l.target = target ∧ l.givenIndex = givenIndex := by
  cases kind with
  | other given => cases h
  | known known =>
      rcases parts_of_build? h with ⟨hkind, hparts⟩
      exact ⟨congrArg GivenKind.known hkind.symm, hparts⟩

/-! ## Factories -/

/-- One of the factories gives the location. -/
inductive IsBuilt : Location → Prop where
  | field (source : SourceUnit) (owner : Option ClassName) (target : Option Symbol)
      (line column : Option Int) : IsBuilt (ofField source owner target line column)
  | parameter {source : SourceUnit} {owner : Option ClassName} {method : Option Method}
      {target : Option Symbol} {line column : Option Int} {l : Location}
      (h : ofParameter? source owner method target line column = .ok l) : IsBuilt l
  | result {source : SourceUnit} {owner : Option ClassName} {method : Option Method}
      {line column : Option Int} {l : Location}
      (h : ofResult? source owner method line column = .ok l) : IsBuilt l
  | localVariable {source : SourceUnit} {owner : Option ClassName} {method : Option Method}
      {target : Option Symbol} {line column : Option Int} {l : Location}
      (h : ofLocal? source owner method target line column = .ok l) : IsBuilt l

theorem IsBuilt.givenIndex_eq_zero (h : l.IsBuilt) : l.givenIndex = 0 := by
  cases h with
  | field => rfl
  | parameter h => exact (parts_of_build? h).2.2.2
  | result h => exact (parts_of_build? h).2.2.2
  | localVariable h => exact (parts_of_build? h).2.2.2

theorem IsBuilt.target_eq_none (h : l.IsBuilt) (hkind : l.kind = .result) : l.target = none := by
  cases h with
  | field => cases hkind
  | parameter h =>
      rw [(parts_of_build? h).1] at hkind
      cases hkind
  | result h => exact (parts_of_build? h).2.2.1
  | localVariable h =>
      rw [(parts_of_build? h).1] at hkind
      cases hkind

/-! ## Positions -/

/-- Only a parameter has a position of its own. -/
theorem index_eq_givenIndex (h : l.kind ≠ .parameter) : l.index = l.givenIndex := by
  unfold index
  split
  · next hmember _ => simp [Location.kind, Member.kind, hmember] at h
  · next hmember _ => simp [Location.kind, Member.kind, hmember] at h
  · rfl

theorem kind_eq_parameter_iff :
    l.kind = .parameter ↔ ∃ method, l.member = .parameter method := by
  cases hmember : l.member <;> simp [Location.kind, Member.kind, hmember]

/-- The position of a parameter of a method is where the method first declares the target, with
everything that is written on it, and `-1` where there is no such declaration. Looking the target up
gives what stands at the position. -/
structure Positioned (l : Location) (method : Method) : Prop where
  index_eq_iff : ∀ i : Nat, l.index = i ↔ ∃ s, l.target = some s ∧ method.DeclaresFirstAt s i
  index_eq_neg_one_iff : l.index = -1 ↔ ∀ s, l.target = some s → s ∉ method.parameters
  found : ∀ i : Nat, l.index = i →
    ∃ p, method.parameters[i]? = some p ∧ l.target.bind method.parameter? = some p
  missing : l.index = -1 → l.target.bind method.parameter? = none

theorem positioned_of_member {m : Method} (hmember : l.member = .parameter m) :
    l.Positioned m := by
  cases htarget : l.target with
  | none =>
      -- Without a symbol there is nothing to look for.
      have hindex : l.index = -1 := by simp [index, hmember, htarget]
      refine ⟨fun i => ?_, ?_, fun i hi => ?_, fun _ => ?_⟩
      · simp [hindex, htarget]
      · simp [hindex, htarget]
      · simp [hindex] at hi
      · simp [htarget]
  | some s =>
      have hindex : l.index = m.indexOf s := by simp [index, hmember, htarget]
      refine ⟨fun i => ?_, ?_, fun i hi => ?_, fun hi => ?_⟩
      · simp [hindex, htarget, Method.indexOf_eq_natCast_iff]
      · simp [hindex, htarget, Method.indexOf_eq_neg_one_iff]
      · rw [hindex, Method.indexOf_eq_natCast_iff] at hi
        have hmem : s ∈ m.parameters := List.mem_of_getElem? hi.1
        exact ⟨s, hi.1, by simp [htarget, Method.parameter?_eq, hmem]⟩
      · rw [hindex, Method.indexOf_eq_neg_one_iff] at hi
        simp [htarget, Method.parameter?_eq, hi]

/-- A recipe fails exactly for parts that do not fit. What it makes is of the kind, in the method
and for the symbol that it was given. A parameter has the position that its method and its symbol
give it, whatever position was given; anything else that a factory makes has the position `0`. -/
theorem Recipe.make?_positioned (r : Recipe) (source : SourceUnit) (owner : Option ClassName)
    (line column : Option Int) :
    (∀ e, r.make? source owner line column = .error e ↔ Misfit r.kind r.method? e) ∧
    ∀ l, r.make? source owner line column = .ok l →
      (r.kind = .known l.kind ∧ l.method? = r.method? ∧ l.target = r.target) ∧
      (l.kind = .parameter → ∃ method, l.method? = some method ∧ l.Positioned method) ∧
      (l.kind ≠ .parameter → r.givenIndex? = none → l.index = 0) := by
  rw [r.make?_eq_ofParts?]
  refine ⟨fun e => ofParts?_eq_error_iff, ?_⟩
  intro l hmade
  rcases parts_of_ofParts? hmade with ⟨hkind, hmethod, htarget, hgiven⟩
  refine ⟨⟨hkind, hmethod, htarget⟩, ?_, ?_⟩
  · intro hparameter
    rcases kind_eq_parameter_iff.1 hparameter with ⟨m, hmember⟩
    exact ⟨m, by rw [Location.method?, hmember]; rfl, positioned_of_member hmember⟩
  · intro hother hfactory
    rw [index_eq_givenIndex hother, hgiven, hfactory]
    rfl

/-- Neither the position that is given counts, nor a declaration with something else written on
it. -/
example :
    let method : Method :=
      ⟨"resize", [⟨"size", ["int"], NameSet.empty⟩, .bare "size", .bare "size"], []⟩
    ((Recipe.loose (.known .parameter) (some method) (some (.bare "size")) 5).make?
      ⟨"shop", ""⟩ none none none).map index = .ok 1 := by
  rfl

end Location
end Nullability
