import Nullability.Path
import Nullability.Proofs.Text.Separators

/-!
# Paths and their texts

A path that comes from texts is `IsNormal`: what its text would not keep is not in it. The text of
a normal path with a name in it leads to the same segments again, whether it is taken apart by
`Path.parse` or followed as written.

* `isNormal_joined`: every path put together from texts is normal;
* `namesOf_render`, `parse_render`: nothing is lost in the text of a normal path;
* `parse_render_parse`: the text of a path that was taken from a text leads to the same path;
* `getLast?_render_ne`: such a text does not end in a slash.
-/

namespace Nullability
namespace Path

/-- At most two slashes at the start, and segments that stay as they are between slashes. -/
structure IsNormal (p : Path) : Prop where
  slashes : p.slashes ≤ 2
  segments : ∀ s ∈ p.segments, s ≠ "" ∧ s ≠ "." ∧ .char '/' ∉ s.toList

/-! ## Where normal paths come from -/

theorem leadingSlashes_le_two (cs : List Letter) : leadingSlashes cs ≤ 2 := by
  unfold leadingSlashes
  split <;> omega

theorem slash_not_mem_of_mem_namesOf {s name : Text} (h : name ∈ namesOf s) :
    .char '/' ∉ name.toList := by
  have hname : name ∈ Text.piecesOf "/" s := (List.mem_filter.1 h).1
  rcases List.mem_map.1 hname with ⟨piece, hpiece, rfl⟩
  have hslash : ("/" : Text).toList = [.char '/'] := rfl
  rw [hslash] at hpiece
  simpa using Text.not_mem_of_mem_pieces hpiece

theorem isNormal_parse (s : Text) : (parse s).IsNormal := by
  refine ⟨leadingSlashes_le_two _, ?_⟩
  intro name hname
  rcases List.mem_filter.1 hname with ⟨hmem, hdot⟩
  have hempty : name ≠ "" := by simpa using (List.mem_filter.1 hmem).2
  exact ⟨hempty, by simpa using hdot, slash_not_mem_of_mem_namesOf hmem⟩

theorem isNormal_join {p q : Path} (hp : p.IsNormal) (hq : q.IsNormal) : (p.join q).IsNormal := by
  unfold join
  split
  · exact hq
  · refine ⟨hp.slashes, ?_⟩
    intro s hs
    rcases List.mem_append.1 hs with hs | hs
    · exact hp.segments s hs
    · exact hq.segments s hs

/-- Every path put together from texts is normal. -/
theorem isNormal_joined (texts : List Text) : (joined texts).IsNormal := by
  -- The join starts from the empty path, so the induction is over every normal start.
  have hfold : ∀ (p : Path), p.IsNormal → ((texts.map parse).foldl join p).IsNormal := by
    induction texts with
    | nil =>
        intro p hp
        exact hp
    | cons s texts ih =>
        intro p hp
        exact ih (p.join (parse s)) (isNormal_join hp (isNormal_parse s))
  exact hfold ⟨0, []⟩ ⟨by simp, by simp⟩

/-! ## The characters of a text -/

variable {p : Path}

theorem toList_render (hne : p.segments ≠ []) :
    p.render.toList =
      List.replicate p.slashes (.char '/') ++
        Text.glue [.char '/'] (p.segments.map Text.toList) := by
  have hsome : p.segments.isEmpty = false := by simpa using hne
  simp [render, hsome, Text.glued]

/-- Joined texts of which none is empty or holds a slash do not start with one. -/
theorem head?_glue_ne {texts : List (List Letter)} (h : ∀ v ∈ texts, v ≠ [] ∧ .char '/' ∉ v) :
    (Text.glue [.char '/'] texts).head? ≠ some (.char '/') := by
  cases texts with
  | nil => simp
  | cons v rest =>
      rcases h v (by simp) with ⟨hv, hslash⟩
      rcases List.exists_cons_of_ne_nil hv with ⟨c, v, rfl⟩
      have hc : c ≠ '/' := by
        rintro rfl
        simp at hslash
      cases rest with
      | nil => simpa using hc
      | cons w rest => simpa [Text.glue_cons] using hc

theorem glue_ne_nil {texts : List (List Letter)} (hne : texts ≠ [])
    (h : ∀ v ∈ texts, v ≠ [] ∧ .char '/' ∉ v) : Text.glue [.char '/'] texts ≠ [] := by
  rcases List.exists_mem_of_ne_nil texts hne with ⟨v, hv⟩
  exact Text.glue_ne_nil_of_mem hv (h v hv).1

theorem getLast?_glue_ne {texts : List (List Letter)} (h : ∀ v ∈ texts, v ≠ [] ∧ .char '/' ∉ v) :
    (Text.glue [.char '/'] texts).getLast? ≠ some (.char '/') := by
  induction texts with
  | nil => simp
  | cons v rest ih =>
      have hrest := ih fun w hw => h w (by simp [hw])
      cases rest with
      | nil =>
          intro hlast
          rw [Text.glue_singleton] at hlast
          exact (h v (by simp)).2 (List.mem_of_getLast? hlast)
      | cons w rest =>
          have hne : Text.glue [.char '/'] (w :: rest) ≠ [] :=
            glue_ne_nil (by simp) fun u hu => h u (by simp [List.mem_cons.1 hu])
          rwa [Text.glue_cons (by simp), List.getLast?_append_of_ne_nil _ hne]

theorem pieces_replicate (n : Nat) (cs : List Letter) :
    Text.pieces [.char '/'] (List.replicate n (.char '/') ++ cs) =
      List.replicate n [] ++ Text.pieces [.char '/'] cs := by
  induction n with
  | zero => simp
  | succ n ih =>
      have hcons := Text.pieces_append_sep (show [.char '/'] ≠ [] by simp)
        (List.replicate n (.char '/') ++ cs)
      rw [List.singleton_append] at hcons
      rw [List.replicate_succ, List.cons_append, hcons, ih, List.replicate_succ, List.cons_append]

/-! ## Back from the text -/

section Back

variable (hp : p.IsNormal) (hne : p.segments ≠ [])

include hp

theorem toList_segments : ∀ v ∈ p.segments.map Text.toList, v ≠ [] ∧ .char '/' ∉ v := by
  intro v hv
  rcases List.mem_map.1 hv with ⟨s, hs, rfl⟩
  rcases hp.segments s hs with ⟨hempty, -, hslash⟩
  exact ⟨by simpa using hempty, hslash⟩

include hne

theorem namesOf_render : namesOf p.render = p.segments := by
  have hsegments := toList_segments hp
  have hpieces : Text.pieces [.char '/'] (Text.glue [.char '/'] (p.segments.map Text.toList)) =
      p.segments.map Text.toList :=
    Text.pieces_glue_of_not_mem (by simpa using hne) fun v hv => (hsegments v hv).2
  have hkept : p.segments.filter (fun name => !name.isEmpty) = p.segments := by
    refine List.filter_eq_self.2 ?_
    intro s hs
    simpa using (hp.segments s hs).1
  have hslash : ("/" : Text).toList = [.char '/'] := rfl
  unfold namesOf Text.piecesOf
  rw [hslash, toList_render hne, pieces_replicate, hpieces]
  simp [Function.comp_def, hkept]

theorem leadingSlashes_render : leadingSlashes p.render.toList = p.slashes := by
  have hhead := head?_glue_ne (toList_segments hp)
  have hstop : (Text.glue [.char '/'] (p.segments.map Text.toList)).takeWhile (· == .char '/') =
      [] := by
    cases hglue : Text.glue [.char '/'] (p.segments.map Text.toList) with
    | nil => rfl
    | cons c rest =>
        rw [hglue] at hhead
        have hc : c ≠ '/' := by simpa using hhead
        simp [hc]
  have hcount : (p.render.toList.takeWhile (· == .char '/')).length = p.slashes := by
    rw [toList_render hne, List.takeWhile_append_of_pos (by simp), hstop]
    simp
  -- More than two slashes would be read as one.
  have hle := hp.slashes
  unfold leadingSlashes
  rw [hcount]
  generalize p.slashes = n at hle ⊢
  match n, hle with
  | 0, _ => rfl
  | 1, _ => rfl
  | 2, _ => rfl

/-- A normal path is read back from its text. -/
theorem parse_render : parse p.render = p := by
  have hkept : p.segments.filter (fun name => name != ("." : Text)) = p.segments := by
    refine List.filter_eq_self.2 ?_
    intro s hs
    simpa using (hp.segments s hs).2.1
  unfold parse
  rw [leadingSlashes_render hp hne, namesOf_render hp hne, hkept]

theorem getLast?_render_ne : p.render.toList.getLast? ≠ some (.char '/') := by
  have hsegments := toList_segments hp
  have hglue := glue_ne_nil (by simpa using hne) hsegments
  rw [toList_render hne, List.getLast?_append_of_ne_nil _ hglue]
  exact getLast?_glue_ne hsegments

theorem render_ne_empty : p.render ≠ "" := by
  have hglue := glue_ne_nil (by simpa using hne) (toList_segments hp)
  intro hempty
  have hnil := toList_render hne
  rw [hempty] at hnil
  simp [hglue] at hnil

end Back

/-- The text of a path that was taken from a text leads to the same path, names in it or not. -/
theorem parse_render_parse (s : Text) : parse (parse s).render = parse s := by
  by_cases hne : (parse s).segments = []
  · have hslashes := (isNormal_parse s).slashes
    have hempty : ∀ n ≤ 2, parse (render ⟨n, []⟩) = ⟨n, []⟩ := by decide
    have hparse : parse s = ⟨(parse s).slashes, []⟩ := by rw [← hne]
    rw [hparse]
    exact hempty _ hslashes
  · exact parse_render (isNormal_parse s) hne

end Path
end Nullability
