import Nullability.Proofs.Config.Setting
import Nullability.Proofs.Document.Storing

/-!
# Settings that a document gets wrong

Every setting has a key of its own, and no key leads on from another one. So a value that a
setting cannot have costs that setting its default, and nothing else.

* `Setting.key`, `Setting.default`: where a document states a setting, and what holds if it does
  not;
* `Setting.Refuses`: the values that a setting cannot have;
* `Config.stated`: what a document says about a setting, with the default for what it gets wrong;
* `get_ofDocument_congr`: a setting depends on its own key and on that of its base mode only;
* `ofDocument_storeAt_refused`: a refused value behaves as a missing one.
-/

namespace Nullability

namespace Setting

/-- The key of a setting in a document. -/
def key : Setting → Text
  | flag f => f.key
  | paramIndex => "METHOD_PARAM_TEST:INDEX"
  | virtualPath => "VIRTUAL:PATH"
  | nullable => "ANNOTATION:NULLABLE"
  | nonNull => "ANNOTATION:NONNULL"
  | workList => "WORK_LIST"
  | outputDirectory => "OUTPUT_DIRECTORY"
  | format => "OUTPUT:FORMAT"

/-- The names that lead to a setting in a document. -/
def path (s : Setting) : List Text :=
  Text.piecesOf ":" s.key

/-- What holds where a document does not say. -/
def default : (s : Setting) → s.Value
  | flag _ => false
  | paramIndex => 9223372036854775807
  | virtualPath => ""
  | nullable => "javax.annotation.Nullable"
  | nonNull => "javax.annotation.Nonnull"
  | workList => NameSet.ofList ["*"]
  | outputDirectory => "/tmp/NullAwayFix"
  | format => .delimited

/-- The values of a document that a setting cannot have. -/
def Refuses : Setting → Document → Prop
  | flag _, value => ∀ b, value ≠ .bool b
  | paramIndex, value => ∀ n, value ≠ .integer n
  | format, value => ∀ s, value = .text s → LedgerFormat.ofAnyCase? s = none
  | virtualPath, value | nullable, value | nonNull, value | workList, value
  | outputDirectory, value => ∀ s, value ≠ .text s

/-- The setting that has to be on for a setting to be on. -/
def base? : Setting → Option Setting
  | flag f => f.base?.map flag
  | _ => none

/-- A setting is decided by its own key and, if it is a deep mode, by that of its base mode. -/
def Governs (s other : Setting) : Prop :=
  other = s ∨ other.base? = some s

/-- What a value of a document means for a setting, if the setting can have it. -/
def read? : (s : Setting) → Document → Option s.Value
  | flag _, value => value.asBool?
  | paramIndex, value => value.asInteger?
  | format, value => value.asText?.bind LedgerFormat.ofAnyCase?
  | workList, value => value.asText?.map WorkList.ofText
  | virtualPath, value | nullable, value | nonNull, value | outputDirectory, value => value.asText?

theorem read?_eq_none_of_refuses {s : Setting} {value : Document} (h : s.Refuses value) :
    s.read? value = none := by
  cases s with
  | flag f =>
      cases value with
      | bool b => exact absurd rfl (h b)
      | _ => rfl
  | paramIndex =>
      cases value with
      | integer n => exact absurd rfl (h n)
      | _ => rfl
  | format =>
      cases value with
      | text s => exact h s rfl
      | _ => rfl
  | virtualPath | nullable | nonNull | workList | outputDirectory =>
      cases value with
      | text s => exact absurd rfl (h s)
      | _ => rfl

/-! ## The keys -/

/-- All settings. -/
def all : List Setting :=
  [flag .suggest, flag .suggestDeep, flag .logErrors, flag .logErrorsDeep, flag .inheritanceTree,
   flag .callGraph, flag .fieldGraph, flag .paramTest, flag .optimized, flag .virtualMarkers,
   paramIndex, virtualPath, nullable, nonNull, workList, outputDirectory, format]

theorem mem_all (s : Setting) : s ∈ all := by
  cases s with
  | flag f => cases f <;> decide
  | _ => decide

/-- No key leads on from another one. -/
theorem apart_path {s other : Setting} (h : other ≠ s) : Document.Apart s.path other.path := by
  have hall : ∀ s ∈ all, ∀ other ∈ all, other ≠ s → Document.Apart s.path other.path := by
    decide +kernel
  exact hall s (mem_all s) other (mem_all other) h

theorem names_ne_empty (s : Setting) : (s.path.any fun name => name.isEmpty) = false := by
  have hall : ∀ s ∈ all, (s.path.any fun name => name.isEmpty) = false := by decide +kernel
  exact hall s (mem_all s)

theorem path_ne_nil (s : Setting) : s.path ≠ [] := by
  have hall : ∀ s ∈ all, s.path ≠ [] := by decide +kernel
  exact hall s (mem_all s)

theorem at?_key (s : Setting) (document : Document) :
    document.at? s.key = document.follow? s.path := by
  have hnames := s.names_ne_empty
  unfold path at hnames
  simp [Document.at?, path, hnames]

end Setting

namespace Config

variable {document other : Document} {master : Bool} {s : Setting}

/-! ## What a document says -/

/-- What a document says about a setting, and the default where it says nothing of use. -/
def stated (document : Document) (s : Setting) : s.Value :=
  ((document.at? s.key).bind s.read?).getD s.default

theorem flag_eq_stated (document : Document) (master : Bool) (f : Flag) :
    flag document master f.key = (stated document (.flag f) && master) := rfl

theorem workList_ofDocument (document : Document) (master : Bool) :
    (ofDocument document master).workList = stated document .workList := by
  -- The default is stated as a text and read like one.
  have hdefault : WorkList.ofText WorkList.wildcard = Setting.workList.default := by decide
  have hstated : stated document .workList =
      (((document.at? Setting.workList.key).bind Document.asText?).map WorkList.ofText).getD
        Setting.workList.default := by
    rw [Option.map_bind]
    rfl
  have hlist : (ofDocument document master).workList =
      WorkList.ofText (textAt document Setting.workList.key WorkList.wildcard) := rfl
  rw [hlist, hstated, textAt]
  cases (document.at? Setting.workList.key).bind Document.asText? with
  | none => exact hdefault
  | some s => rfl

theorem format_ofDocument (document : Document) (master : Bool) :
    (ofDocument document master).format = stated document .format := by
  -- A missing name is read as an empty one, which names no format either.
  have hnameless : LedgerFormat.ofAnyCase? "" = none := by decide
  have hstated : stated document .format =
      (((document.at? Setting.format.key).bind Document.asText?).bind
        LedgerFormat.ofAnyCase?).getD Setting.format.default := by
    rw [Option.bind_assoc]
    rfl
  have hformat : (ofDocument document master).format =
      formatAt document Setting.format.key := rfl
  rw [hformat, hstated, formatAt, textAt]
  cases (document.at? Setting.format.key).bind Document.asText? with
  | none => rw [Option.getD_none, hnameless]; rfl
  | some s => rfl

/-- A setting depends on what the document says about it and about its base mode. -/
theorem get_ofDocument_congr (hself : stated document s = stated other s)
    (hbase : ∀ base, s.base? = some base → stated document base = stated other base) :
    (ofDocument document master).get s = (ofDocument other master).get s := by
  cases s with
  | flag f =>
      -- A mode is on where it and its base mode are, and both are stated alike.
      have hf : (f.base?.map fun base => flag document master base.key) =
          f.base?.map fun base => flag other master base.key := by
        refine Option.map_congr ?_
        intro base hmem
        have hsame := hbase (.flag base) (by simp [Setting.base?, hmem])
        rw [flag_eq_stated, flag_eq_stated, hsame]
      simp only [get]
      rw [isOn_ofDocument, isOn_ofDocument, flag_eq_stated, flag_eq_stated, hself, hf]
  | workList =>
      simp only [get]
      rw [workList_ofDocument, workList_ofDocument, hself]
  | format =>
      simp only [get]
      rw [format_ofDocument, format_ofDocument, hself]
  | paramIndex | virtualPath | nullable | nonNull | outputDirectory => exact hself

/-- A setting has its default where the document states that, or states nothing that the setting
can have. -/
theorem get_ofDocument_of_stated (h : stated document s = s.default) :
    (ofDocument document master).get s = s.default := by
  cases s with
  | flag f =>
      have hoff : stated document (.flag f) = false := h
      simp only [get]
      rw [isOn_ofDocument, flag_eq_stated, hoff]
      rfl
  | workList => exact (workList_ofDocument document master).trans h
  | format => exact (format_ofDocument document master).trans h
  | paramIndex | virtualPath | nullable | nonNull | outputDirectory => exact h

/-! ## Refused values -/

theorem stated_eq_default_of_refuses {value : Document} (hvalue : s.Refuses value)
    (h : document.at? s.key = some value) : stated document s = s.default := by
  rw [stated, h, Option.bind_some, Setting.read?_eq_none_of_refuses hvalue, Option.getD_none]

theorem stated_eq_default_of_missing (h : document.at? s.key = none) :
    stated document s = s.default := by
  rw [stated, h, Option.bind_none, Option.getD_none]

theorem stated_congr (h : document.at? s.key = other.at? s.key) :
    stated document s = stated other s := by
  rw [stated, stated, h]

/-- A value that a setting cannot have, stored under its key in any document, has the effect of no
value there: the setting has its default, and every setting that the key does not govern is as
before. -/
theorem ofDocument_storeAt_refused (document : Document) (master : Bool) (s : Setting)
    {value : Document} (hvalue : s.Refuses value) :
    let stored := document.storeAt s.path value
    let removed := document.removeAt s.path
    (stored.at? s.key = some value ∧ removed.at? s.key = none) ∧
    ofDocument stored master = ofDocument removed master ∧
    (ofDocument stored master).get s = s.default ∧
    ∀ other, ¬ s.Governs other →
      (ofDocument stored master).get other = (ofDocument document master).get other := by
  intro stored removed
  have hstored : stored.at? s.key = some value :=
    (s.at?_key stored).trans (Document.follow?_storeAt_self document s.path value)
  have hremoved : removed.at? s.key = none :=
    (s.at?_key removed).trans (Document.follow?_removeAt_self s.path_ne_nil document)
  have hdefault : stated stored s = s.default := stated_eq_default_of_refuses hvalue hstored
  -- No other key is touched, because none leads through this one.
  have hkept : ∀ other, other ≠ s → stated stored other = stated document other := by
    intro other hne
    refine stated_congr ?_
    calc
      stored.at? other.key = stored.follow? other.path := other.at?_key stored
      _ = document.follow? other.path :=
          Document.follow?_storeAt_of_apart (Setting.apart_path hne) document value
      _ = document.at? other.key := (other.at?_key document).symm
  have hsame : ∀ other, stated stored other = stated removed other := by
    intro other
    by_cases hother : other = s
    · subst hother
      rw [hdefault, stated_eq_default_of_missing hremoved]
    · rw [hkept other hother]
      refine stated_congr ?_
      calc
        document.at? other.key = document.follow? other.path := other.at?_key document
        _ = removed.follow? other.path :=
            (Document.follow?_removeAt_of_apart (Setting.apart_path hother) document).symm
        _ = removed.at? other.key := (other.at?_key removed).symm
  refine ⟨⟨hstored, hremoved⟩, ext_get fun other => ?_, get_ofDocument_of_stated hdefault, ?_⟩
  · exact get_ofDocument_congr (hsame other) fun base _ => hsame base
  · intro other hfree
    -- Neither the setting nor its base mode is the one that was stored.
    refine get_ofDocument_congr (hkept other fun h => hfree (Or.inl h)) ?_
    intro base hbase
    refine hkept base ?_
    rintro rfl
    exact hfree (Or.inr hbase)

/-- A number in place of the mode that errors are logged in: the deep mode goes with it, and the
number that stands in place of a table and the directory stay what they are. -/
theorem ofDocument_storeAt_refused_number :
    let document : Document := .table
      [("SUGGEST", .integer 5), ("OUTPUT_DIRECTORY", .text "out"),
       ("LOG_ERROR", .table [("ACTIVE", .bool true), ("DEEP", .bool true)])]
    let stored := document.storeAt (Setting.path (.flag .logErrors)) (.integer 1)
    (Setting.Refuses (.flag .logErrors) (.integer 1) ∧
      (ofDocument document true).get (.flag .logErrorsDeep) = true) ∧
    (ofDocument stored true).get (.flag .logErrors) = false ∧
    (ofDocument stored true).get (.flag .logErrorsDeep) = false ∧
    (ofDocument stored true).get .outputDirectory = "out" := by
  intro document stored
  have hrefused : Setting.Refuses (.flag .logErrors) (.integer 1) := by
    intro b h
    cases h
  rcases ofDocument_storeAt_refused document true (.flag .logErrors) hrefused with
    ⟨-, hremoved, hdefault, hkept⟩
  have hfree : ¬ Setting.Governs (.flag .logErrors) .outputDirectory := by
    rintro (h | h) <;> cases h
  refine ⟨⟨hrefused, rfl⟩, hdefault, ?_, (hkept .outputDirectory hfree).trans rfl⟩
  rw [hremoved]
  rfl

end Config
end Nullability
