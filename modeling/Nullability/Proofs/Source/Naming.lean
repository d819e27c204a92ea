import Nullability.Proofs.Disk.Reaching
import Nullability.Proofs.Source.Packages

/-!
# Names of modules

The dotted name of a module and its package depend on the file alone, not on how the path to it is
written or from where.

* `SourceModule.IsNamed`: the name and the package of a module by the packages around it and its own
  name. A package in another one that is named like the file which stands for a package goes by the
  name of the other one instead;
* `load?_eq_ofTree`: every path to a file with a source is loaded, under one name;
* `load?_named`: that name, the package and the address, for every such path.
-/

namespace Nullability

/-! ## Joined names -/

namespace Text

variable {names : List Text} {name : Text}

theorem toList_dotted (a b : Text) :
    (a ++ "." ++ b).toList = a.toList ++ .char '.' :: b.toList := by
  simp

/-- Behind other names a name follows a dot. -/
theorem toList_glued_concat (hne : names ≠ []) (name : Text) :
    (glued "." (names ++ [name])).toList =
      (glued "." names).toList ++ .char '.' :: name.toList := by
  simp [glued, glue_concat, hne]

theorem afterLast_glued_concat (hdot : .char '.' ∉ name.toList) :
    afterLast '.' (glued "." (names ++ [name])).toList = name.toList := by
  by_cases hne : names = []
  · simpa [hne, glued] using afterLast_of_not_mem hdot
  · rw [toList_glued_concat hne, afterLast_append_cons hdot]

theorem beforeLast_glued_concat (hdot : .char '.' ∉ name.toList) :
    beforeLast '.' (glued "." (names ++ [name])).toList = (glued "." names).toList := by
  by_cases hne : names = []
  · simpa [hne, glued] using beforeLast_of_not_mem hdot
  · rw [toList_glued_concat hne, beforeLast_append_cons hdot]

theorem eq_empty_of_glued_concat (h : glued "." (names ++ [name]) = "") : name = "" := by
  have hlast : name.toList <:+ (glued "." (names ++ [name])).toList := by
    simpa [glued] using suffix_glue_concat (names.map Text.toList) name.toList
  rw [h] at hlast
  simpa using hlast

theorem glued_ne_empty (hne : names ≠ []) (h : ∀ s ∈ names, s ≠ "") : glued "." names ≠ "" := by
  rcases List.eq_nil_or_concat' names with rfl | ⟨init, last, rfl⟩
  · exact absurd rfl hne
  · exact fun hempty => h last (by simp) (eq_empty_of_glued_concat hempty)

end Text

namespace SourceModule

variable {parser : Parser} {d : Disk} {t : FileTree} {text file stem name package : Text}
  {directory : Place} {chain : List Text} {tree : SourceTree}

/-! ## Names and packages -/

theorem withoutPackageStem_append (rest : Text) :
    withoutPackageStem (rest ++ "." ++ packageStem) = rest := by
  simp [withoutPackageStem]

theorem withoutPackageStem_eq_self (h : ∀ rest, name ≠ rest ++ "." ++ packageStem) :
    withoutPackageStem name = name := by
  have hending : ¬ .char '.' :: packageStem.toList <:+ name.toList := by
    rintro ⟨rest, hname⟩
    refine h (Text.ofList rest) (Text.toList_inj.1 ?_)
    rw [Text.toList_dotted, ← hname, Text.toList_ofList]
  simp [withoutPackageStem, hending]

/-- Behind the packages around it no other file is named like one that stands for a package. -/
theorem glued_concat_ne (hdot : .char '.' ∉ stem.toList) (hstem : stem ≠ packageStem)
    (rest : Text) :
    Text.glued "." (chain ++ [stem]) ≠ rest ++ "." ++ packageStem := by
  intro heq
  have hafter := congrArg (fun s => Text.afterLast '.' s.toList) heq
  rw [Text.afterLast_glued_concat hdot, Text.toList_dotted,
    Text.afterLast_append_cons (by decide)] at hafter
  exact hstem (Text.toList_inj.1 hafter)

/-- The name that a file is given, by the packages around it and its own name. -/
def dottedName (chain : List Text) (stem : Text) : Text :=
  Text.glued "." (chain ++ if stem = packageStem then [] else [stem])

/-- The name and the package of a module, by the packages around it and the name of its file. -/
inductive IsNamed (chain : List Text) (stem : Text) : Text → Text → Prop where
  /-- A module is named behind the packages around it. -/
  | member (hstem : stem ≠ packageStem) :
      IsNamed chain stem (Text.glued "." (chain ++ [stem])) (Text.glued "." chain)
  /-- The file that stands for a package has the name of the package. -/
  | package (hstem : stem = packageStem)
      (hchain : ∀ rest, Text.glued "." chain ≠ rest ++ "." ++ packageStem) :
      IsNamed chain stem (Text.glued "." chain) (Text.glued "." chain)
  /-- A package that is itself named like such a file loses its own part of the name. -/
  | shortened {rest : Text} (hstem : stem = packageStem)
      (hchain : Text.glued "." chain = rest ++ "." ++ packageStem) :
      IsNamed chain stem rest rest

theorem IsNamed.package_eq_empty (h : IsNamed [] stem name package) (hstem : stem ≠ packageStem) :
    package = "" := by
  cases h with
  | member => rfl
  | package h => exact absurd h hstem
  | shortened h => exact absurd h hstem

/-- A module under its dotted name has the name and the package that it is to have, if its tree says
rightly whether it stands for a package. -/
theorem isNamed_ofTree (hdot : .char '.' ∉ stem.toList)
    (hmark : tree.isPackage = true ↔ stem = packageStem) (here : Place) (path : Option Text) :
    IsNamed chain stem (ofTree (dottedName chain stem) here path tree).name
      (ofTree (dottedName chain stem) here path tree).home.package := by
  unfold ModuleHome.package home ofTree dottedName
  by_cases hstem : stem = packageStem
  · simp only [if_pos hstem, List.append_nil, if_pos (hmark.2 hstem)]
    by_cases hshort : ∃ rest, Text.glued "." chain = rest ++ "." ++ packageStem
    · rcases hshort with ⟨rest, hrest⟩
      rw [hrest, withoutPackageStem_append]
      exact .shortened hstem hrest
    · have hchain := not_exists.1 hshort
      rw [withoutPackageStem_eq_self hchain]
      exact .package hstem hchain
  · have hself : withoutPackageStem (Text.glued "." (chain ++ [stem])) =
        Text.glued "." (chain ++ [stem]) :=
      withoutPackageStem_eq_self (glued_concat_ne hdot hstem)
    simp only [if_neg hstem, if_neg (mt hmark.1 hstem), hself, Text.beforeLast_glued_concat hdot,
      Text.ofList_toList]
    exact .member hstem

/-! ## Loading by a path -/

/-- At a place stands a file with a text that can be parsed. -/
def HoldsSource (t : FileTree) (parser : Parser) (q : Place) (tree : SourceTree) : Prop :=
  ∃ content source, t.at? q = some (.file content) ∧
    Encoding.utf8.decode? content = some source ∧
    parser q (Text.ofList (Text.unifyNewlines source.toList)) = some tree

/-- The trees of a parser say by the name of the file whether it stands for a package. -/
def MarksPackages (parser : Parser) : Prop :=
  ∀ q source tree, parser q source = some tree →
    (tree.isPackage = true ↔ FileName.stem q.name = packageStem)

theorem glued_packageChain_ne_empty (hproper : d.tree.IsProper) (htop : ¬ d.tree.IsPackage [])
    (hpackage : d.tree.IsPackage directory) : Text.glued "." (packageChain d directory) ≠ "" := by
  rcases isChain_packageChain htop directory with ⟨base, hdirectory, -⟩
  have hne : packageChain d directory ≠ [] := by
    rw [Ne, packageChain_eq_nil_iff htop]
    exact not_not_intro hpackage
  refine Text.glued_ne_empty hne fun s hs => ?_
  have hmem : s ∈ directory ++ [packageFile] := by
    rw [hdirectory]
    exact List.mem_append_left _ (List.mem_append_right _ hs)
  exact (hproper.isFileName hpackage s hmem).nonempty

theorem moduleName_eq_dottedName {path : Path}
    (hplace : Place.ofPath d.here path = directory ++ [file]) (hname : path.name = file)
    (hchain : FileName.stem file = packageStem → Text.glued "." (packageChain d directory) ≠ "") :
    moduleName d path = dottedName (packageChain d directory) (FileName.stem file) := by
  -- Only a name that is empty itself leaves nothing to be named by.
  have hempty : dottedName (packageChain d directory) (FileName.stem file) = "" →
      FileName.stem file = "" := by
    unfold dottedName
    by_cases hstem : FileName.stem file = packageStem
    · rw [if_pos hstem, List.append_nil]
      exact fun h => absurd h (hchain hstem)
    · rw [if_neg hstem]
      exact Text.eq_empty_of_glued_concat
  unfold moduleName
  rw [hname, hplace, List.dropLast_concat]
  dsimp only
  rw [← dottedName]
  split
  · next h =>
    have hnone := Text.isEmpty_iff.1 h
    exact (hempty hnone).trans hnone.symm
  · rfl

/-- Whatever path leads to a file with a source, it is loaded. -/
theorem load?_eq_ofTree {q : Place} (hsource : HoldsSource d.tree parser q tree)
    (h : d.Spells text q) :
    load? parser d text =
      .ok (some (ofTree (moduleName d (Path.parse text)) d.here (some (Path.parse text).render)
        tree)) := by
  rcases hsource with ⟨content, source, hfile, hdecode, hparse⟩
  simp [load?, h.usable, h.readBytes_eq hfile, ofContent?, hdecode, h.ofPath_eq, hparse]

/-- A module that was loaded has an address, which is that of the place. -/
theorem unit?_of_spells {q : Place} {m : SourceModule} (hproper : d.tree.IsProper)
    (hq : (d.tree.at? q).isSome = true) (h : d.Spells text q)
    (hload : load? parser d text = .ok (some m)) :
    m.home.unit? = .ok ⟨m.home.package, Place.uri q⟩ := by
  have hfile := (of_load? hload).2.1
  have hplace : ((Path.parse text).absolute d.here).segments = q := h.ofPath_eq
  have husable : m.home.hasUnusablePath = false := by
    have hnameable : ∀ s ∈ ((Path.parse text).absolute d.here).segments,
        ∀ c ∈ s.toList, c.isNameable = true := by
      rw [hplace]
      exact fun s hs => (hproper.isFileName hq s hs).nameable
    simp [home, ModuleHome.hasUnusablePath, ModuleHome.path?, hfile,
      Path.isRefused_render hnameable]
  have huri : m.home.uri = Place.uri q := by simp [ModuleHome.uri, home, hfile, hplace]
  simp [ModuleHome.unit?, husable, huri]

/-- The name of a module, its package and its address depend on its file alone. For a file in a
tree whose top is no package, the climb over the packages around it ends with all of them that
follow each other without a break. Whatever path leads to the file from wherever, it is loaded under
the name and with the package that go with these, and with the address of the place. Of the files
with the stem of one that stands for a package only that one itself is meant. -/
theorem load?_named (hparser : MarksPackages parser) (hproper : t.IsProper)
    (htop : ¬ t.IsPackage []) (hsource : HoldsSource t parser (directory ++ [file]) tree)
    (hdot : .char '.' ∉ (FileName.stem file).toList)
    (hfile : FileName.stem file = packageStem → file = packageFile) :
    ∃ base chain name package, directory = base ++ chain ∧ t.IsChain base chain ∧
      (∀ names result, t.Climbs directory names result ↔ result = chain ++ names) ∧
      IsNamed chain (FileName.stem file) name package ∧ (chain = [] → package = "") ∧
      ∀ (d : Disk) (text : Text), d.tree = t → d.Spells text (directory ++ [file]) →
        ∃ m, load? parser d text = .ok (some m) ∧ m.tree = tree ∧ m.name = name ∧
          m.home.unit? = .ok ⟨package, Place.uri (directory ++ [file])⟩ := by
  -- Name and package come from the tree, so those seen from the top are seen from anywhere.
  let chain := packageChain ⟨t, [], []⟩ directory
  let named := ofTree (dottedName chain (FileName.stem file)) [] none tree
  obtain ⟨base, hdirectory, hchain⟩ := isChain_packageChain (d := ⟨t, [], []⟩) htop directory
  have hentry : (t.at? (directory ++ [file])).isSome = true := by
    rcases hsource with ⟨content, -, hentry, -⟩
    simp [hentry]
  -- The file that stands for a package makes its own directory one, and so the chain is not empty.
  have hpackage : FileName.stem file = packageStem → t.IsPackage directory := by
    intro hstem
    rw [hfile hstem] at hentry
    exact hentry
  have hmark : tree.isPackage = true ↔ FileName.stem file = packageStem := by
    rcases hsource with ⟨content, source, -, -, hparse⟩
    simpa [Place.name] using hparser _ _ _ hparse
  have hnamed : IsNamed chain (FileName.stem file) named.name named.home.package :=
    isNamed_ofTree hdot hmark [] none
  refine ⟨base, chain, named.name, named.home.package, hdirectory, hchain,
    fun names result => climbs_iff (d := ⟨t, [], []⟩) htop, hnamed, ?_, ?_⟩
  · intro hnone
    have houtside : ¬ t.IsPackage directory :=
      (packageChain_eq_nil_iff (d := ⟨t, [], []⟩) htop).1 hnone
    rw [hnone] at hnamed
    exact hnamed.package_eq_empty (mt hpackage houtside)
  · rintro d text rfl hspells
    have hname : moduleName d (Path.parse text) = dottedName chain (FileName.stem file) := by
      rcases hsource with ⟨content, -, hcontent, -⟩
      refine moduleName_eq_dottedName hspells.ofPath_eq ?_ fun hstem =>
        glued_packageChain_ne_empty hproper htop (hpackage hstem)
      rw [hspells.name_eq hproper hcontent]
      simp [Place.name]
    have hload := load?_eq_ofTree hsource hspells
    refine ⟨_, hload, rfl, ?_, ?_⟩
    · rw [hname]
      rfl
    · rw [unit?_of_spells hproper hentry hspells hload, hname]
      rfl

/-- A package in a package, with a module in it. -/
def nestedPackages (inner : Text) : FileTree :=
  ⟨[(["shop"], .directory), (["shop", packageFile], .file ("" : Text).toUTF8),
    (["shop", inner], .directory), (["shop", inner, packageFile], .file ("" : Text).toUTF8),
    (["shop", inner, "cart.py"], .file ("" : Text).toUTF8)]⟩

/-- A parser to which every text is an empty module. -/
def emptyModules : Parser := fun q _ =>
  some ⟨FileName.stem q.name = packageStem, [], [], []⟩

theorem marksPackages_emptyModules : MarksPackages emptyModules := by
  intro q source tree htree
  simp only [emptyModules, Option.some.injEq] at htree
  rw [← htree, decide_eq_true_iff]

theorem holdsSource_emptyModules {q : Place} (hfile : t.at? q = some (.file ("" : Text).toUTF8)) :
    HoldsSource t emptyModules q ⟨FileName.stem q.name = packageStem, [], [], []⟩ :=
  ⟨("" : Text).toUTF8, "", hfile, by decide +kernel, rfl⟩

theorem load?_named_inner :
    let t := nestedPackages "app"
    let d : Disk := ⟨t, ["shop", "app"], []⟩
    (t.IsProper ∧ ¬ t.IsPackage [] ∧ d.Spells "../app/./cart.py" ["shop", "app", "cart.py"]) ∧
      ∃ m, load? emptyModules d "../app/./cart.py" = .ok (some m) ∧ m.name = "shop.app.cart" ∧
        m.home.unit? = .ok ⟨"shop.app", "file:///shop/app/cart.py"⟩ := by
  intro t d
  have hproper : t.IsProper := FileTree.isProper_of_entries (by decide +kernel)
  have htop : ¬ t.IsPackage [] := by decide
  have hspells : d.Spells "../app/./cart.py" ["shop", "app", "cart.py"] :=
    ⟨by decide, by decide, by decide +kernel⟩
  have hfile : t.at? ((["shop", "app"] : List Text) ++ [("cart.py" : Text)]) =
      some (.file ("" : Text).toUTF8) := by decide
  have hsource := holdsSource_emptyModules hfile
  have hshop : t.IsChain [] ([] ++ [.ofString "shop"]) :=
    (FileTree.isChain_nil htop).concat (by decide)
  have hpackages : t.IsChain [] ([.ofString "shop"] ++ [.ofString "app"]) :=
    hshop.concat (by decide)
  obtain ⟨base, chain, name, package, hdirectory, hchain, -, hnamed, -, hload⟩ :=
    load?_named marksPackages_emptyModules hproper htop hsource (by decide) (by decide)
  obtain rfl : (["shop", "app"] : Place) = chain :=
    hpackages.unique hchain (by simpa using hdirectory)
  rcases hload d "../app/./cart.py" rfl hspells with ⟨m, hm, -, hname, hunit⟩
  refine ⟨⟨hproper, htop, hspells⟩, m, hm, ?_⟩
  -- Only a module that is no package can have this stem.
  cases hnamed with
  | member =>
      have hjoined : Text.glued "." ((["shop", "app"] : List Text) ++ [FileName.stem "cart.py"]) =
          "shop.app.cart" := by decide +kernel
      have haddress : Place.uri ((["shop", "app"] : List Text) ++ [("cart.py" : Text)]) =
          "file:///shop/app/cart.py" := by
        decide +kernel
      exact ⟨hname.trans hjoined, haddress ▸ hunit⟩
  | package hstem => exact absurd hstem (by decide +kernel)
  | shortened hstem => exact absurd hstem (by decide +kernel)

/-- A package by the name of the file that stands for one loses its part of the name, and has the
package around it for its own; a module in it keeps to the whole name. -/
theorem load?_named_shortened :
    let t := nestedPackages packageStem
    let d : Disk := ⟨t, [], []⟩
    (t.IsProper ∧ ¬ t.IsPackage [] ∧ t.IsChain [] ["shop", "__init__"]) ∧
      (∃ m, load? emptyModules d "shop/__init__/__init__.py" = .ok (some m) ∧
        m.name = "shop" ∧ m.home.package = "shop") ∧
      ∃ m, load? emptyModules d "shop/__init__/cart.py" = .ok (some m) ∧
        m.name = "shop.__init__.cart" ∧ m.home.package = "shop.__init__" := by
  intro t d
  have hproper : t.IsProper := FileTree.isProper_of_entries (by decide +kernel)
  have htop : ¬ t.IsPackage [] := by decide
  have hshop : t.IsChain [] ([] ++ [.ofString "shop"]) :=
    (FileTree.isChain_nil htop).concat (by decide)
  have hpackages : t.IsChain [] ([.ofString "shop"] ++ [.ofString "__init__"]) :=
    hshop.concat (by decide)
  have hpackage : d.Spells "shop/__init__/__init__.py" ["shop", "__init__", "__init__.py"] :=
    ⟨by decide, by decide, by decide +kernel⟩
  have hmember : d.Spells "shop/__init__/cart.py" ["shop", "__init__", "cart.py"] :=
    ⟨by decide, by decide, by decide +kernel⟩
  exact ⟨⟨hproper, htop, hpackages⟩,
    ⟨_, load?_eq_ofTree (holdsSource_emptyModules (by decide)) hpackage, by decide +kernel,
      by decide +kernel⟩,
    _, load?_eq_ofTree (holdsSource_emptyModules (by decide)) hmember, by decide +kernel,
      by decide +kernel⟩

end SourceModule
end Nullability
