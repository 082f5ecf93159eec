import BuildSync.Path

/-!
# Normal forms of paths

A path whose segments are well formed is read back from its text. Normalizing and joining print
such a path, so their results are in normal form, and two texts have the same normal form exactly
when they have the same root and the same segments.
-/

set_option autoImplicit false

namespace BuildSync.Path

/-- A text between slashes that normalizing keeps. -/
def Segment (s : List Char) : Prop := isSegment s = true ∧ '/' ∉ s

theorem Segment.ne_nil {s : List Char} (hs : Segment s) : s ≠ [] := by
  rintro rfl
  cases hs.1

theorem Segment.ne_dot {s : List Char} (hs : Segment s) : s ≠ ['.'] := by
  rintro rfl
  cases hs.1

def WellFormed (p : Path) : Prop := ∀ s ∈ p.segments, Segment s

theorem pieces_ne_nil (cs : List Char) : pieces cs ≠ [] := by
  cases cs with
  | nil => simp [pieces]
  | cons c cs =>
    simp only [pieces]
    split
    · simp
    · split <;> simp

theorem pieces_slash (cs : List Char) : pieces ('/' :: cs) = [] :: pieces cs := rfl

theorem pieces_cons {c : Char} (hc : c ≠ '/') (cs : List Char) :
    ∃ p ps, pieces cs = p :: ps ∧ pieces (c :: cs) = (c :: p) :: ps := by
  obtain ⟨p, ps, hp⟩ := List.exists_cons_of_ne_nil (pieces_ne_nil cs)
  exact ⟨p, ps, hp, by simp [pieces, hc, hp]⟩

theorem slash_not_mem_pieces (cs : List Char) : ∀ s ∈ pieces cs, '/' ∉ s := by
  induction cs with
  | nil => simp [pieces]
  | cons c cs ih =>
    by_cases hc : c = '/'
    · subst hc
      rw [pieces_slash]
      intro s hs
      rcases List.mem_cons.mp hs with rfl | hs
      · exact List.not_mem_nil
      · exact ih s hs
    · obtain ⟨p, ps, hp, hcs⟩ := pieces_cons hc cs
      rw [hcs]
      rw [hp] at ih
      intro s hs
      rcases List.mem_cons.mp hs with rfl | hs
      · have hpSlash := ih p List.mem_cons_self
        simp [hpSlash, Ne.symm hc]
      · exact ih s (List.mem_cons_of_mem _ hs)

theorem pieces_append_slash (xs ys : List Char) :
    pieces (xs ++ '/' :: ys) = pieces xs ++ pieces ys := by
  induction xs with
  | nil => exact pieces_slash ys
  | cons c xs ih =>
    by_cases hc : c = '/'
    · subst hc
      rw [List.cons_append, pieces_slash, pieces_slash, ih]
      rfl
    · obtain ⟨p, ps, hp, hxs⟩ := pieces_cons hc xs
      obtain ⟨q, qs, hq, hAll⟩ := pieces_cons hc (xs ++ '/' :: ys)
      rw [ih, hp] at hq
      cases hq
      rw [List.cons_append, hAll, hxs]
      rfl

theorem pieces_eq_singleton {s : List Char} (hs : '/' ∉ s) : pieces s = [s] := by
  induction s with
  | nil => rfl
  | cons c s ih =>
    obtain ⟨hc, hs⟩ := List.ne_and_not_mem_of_not_mem_cons hs
    obtain ⟨p, ps, hp, hcs⟩ := pieces_cons (Ne.symm hc) s
    rw [ih hs] at hp
    cases hp
    exact hcs

theorem pieces_slashed {segments : List (List Char)} (hne : segments ≠ [])
    (h : ∀ s ∈ segments, '/' ∉ s) : pieces (slashed segments) = segments := by
  fun_induction slashed segments with
  | case1 => exact absurd rfl hne
  | case2 s => exact pieces_eq_singleton (h s List.mem_cons_self)
  | case3 s t rest ih =>
    rw [pieces_append_slash, pieces_eq_singleton (h s List.mem_cons_self),
      ih (List.cons_ne_nil t rest) fun u hu => h u (List.mem_cons_of_mem _ hu)]
    rfl

theorem segment_of_mem_segmentsOf {cs s : List Char} (hs : s ∈ segmentsOf cs) : Segment s := by
  obtain ⟨hMem, hSegment⟩ := List.mem_filter.mp hs
  exact ⟨hSegment, slash_not_mem_pieces cs s hMem⟩

theorem segmentsOf_slash (cs : List Char) : segmentsOf ('/' :: cs) = segmentsOf cs := by
  simp [segmentsOf, pieces_slash, isSegment]

theorem segmentsOf_slashed {segments : List (List Char)} (h : ∀ s ∈ segments, Segment s) :
    segmentsOf (slashed segments) = segments := by
  by_cases hne : segments = []
  · subst hne
    rfl
  · rw [segmentsOf, pieces_slashed hne fun s hs => (h s hs).2, List.filter_eq_self]
    exact fun s hs => (h s hs).1

theorem segmentsOf_root_append (root : Root) (cs : List Char) :
    segmentsOf (root.text ++ cs) = segmentsOf cs := by
  cases root <;> simp [Root.text, segmentsOf_slash]

theorem head_slashed {segments : List (List Char)} (h : ∀ s ∈ segments, Segment s) :
    (slashed segments).head? ≠ some '/' := by
  have hHead : ∀ s rest, Segment s → (s ++ rest).head? ≠ some '/' := by
    intro s rest hs
    obtain ⟨c, cs, rfl⟩ := List.exists_cons_of_ne_nil hs.ne_nil
    simpa using Ne.symm (List.ne_and_not_mem_of_not_mem_cons hs.2).1
  fun_cases slashed segments with
  | case1 => simp
  | case2 s => simpa using hHead s [] (h s List.mem_cons_self)
  | case3 s t rest => exact hHead s _ (h s List.mem_cons_self)

theorem rootOf_append (root : Root) {cs : List Char} (hcs : cs.head? ≠ some '/') :
    rootOf (root.text ++ cs) = root := by
  cases cs with
  | nil => cases root <;> rfl
  | cons c cs =>
    have hc : c ≠ '/' := by simpa using hcs
    cases root <;> simp [Root.text, rootOf, hc]

theorem toList_eq {p : Path} (h : ¬(p.root = .relative ∧ p.segments = [])) :
    p.toList = p.root.text ++ slashed p.segments := by
  obtain ⟨root, segments⟩ := p
  unfold toList
  split
  · rename_i hRoot hSegments
    exact absurd ⟨hRoot, hSegments⟩ h
  · rfl

/-- A well-formed path is read back from its text. -/
theorem ofList_toList {p : Path} (hp : p.WellFormed) : ofList p.toList = p := by
  by_cases h : p.root = .relative ∧ p.segments = []
  · obtain ⟨root, segments⟩ := p
    obtain ⟨rfl, rfl⟩ := h
    rfl
  · rw [toList_eq h, ofList, rootOf_append p.root (head_slashed hp), segmentsOf_root_append,
      segmentsOf_slashed hp]

theorem toList_ne_nil {p : Path} (hp : p.WellFormed) : p.toList ≠ [] := by
  intro h
  have hEmpty : p = ⟨.relative, []⟩ := (ofList_toList hp).symm.trans (by rw [h]; rfl)
  rw [hEmpty] at h
  cases h

theorem toString_ne_empty {p : Path} (hp : p.WellFormed) : p.toString ≠ "" :=
  fun h => toList_ne_nil hp (String.ofList_eq_empty_iff.mp h)

theorem ofString_toString {p : Path} (hp : p.WellFormed) : ofString p.toString = p := by
  rw [ofString, toString, String.toList_ofList, ofList_toList hp]

theorem wellFormed_ofString (s : String) : (ofString s).WellFormed :=
  fun _ => segment_of_mem_segmentsOf

theorem WellFormed.append {p : Path} (hp : p.WellFormed) {segments : List (List Char)}
    (h : ∀ s ∈ segments, Segment s) : (p.append segments).WellFormed := by
  intro s hs
  rcases List.mem_append.mp hs with hs | hs
  · exact hp s hs
  · exact h s hs

theorem normalize_of_ne {path : String} (h : path ≠ "") :
    normalize path = (ofString path).toString := if_neg h

/-- A text and its normal form are the same path. -/
theorem ofString_normalize (path : String) : ofString (normalize path) = ofString path := by
  by_cases h : path = ""
  · rw [h]
    rfl
  · rw [normalize_of_ne h, ofString_toString (wellFormed_ofString path)]

theorem normalize_toString {p : Path} (hp : p.WellFormed) : normalize p.toString = p.toString := by
  rw [normalize_of_ne (toString_ne_empty hp), ofString_toString hp]

theorem normalize_normalize (path : String) : normalize (normalize path) = normalize path := by
  by_cases h : path = ""
  · rw [h]
    rfl
  · rw [normalize_of_ne h, normalize_toString (wellFormed_ofString path)]

theorem wellFormed_join (dir path : String) :
    ((ofString dir).append (segmentsOf path.toList)).WellFormed :=
  (wellFormed_ofString dir).append fun _ => segment_of_mem_segmentsOf

theorem ofString_join (dir path : String) :
    ofString (join dir path) = (ofString dir).append (segmentsOf path.toList) :=
  ofString_toString (wellFormed_join dir path)

theorem normalize_join (dir path : String) : normalize (join dir path) = join dir path :=
  normalize_toString (wellFormed_join dir path)

/-! ### Other spellings -/

theorem ofString_congr {path other : String} (h : normalize path = normalize other) :
    ofString path = ofString other := by
  rw [← ofString_normalize path, h, ofString_normalize]

theorem join_congr {dir dir' path path' : String} (hDir : normalize dir = normalize dir')
    (hPath : normalize path = normalize path') : join dir path = join dir' path' := by
  have hSegments : segmentsOf path.toList = segmentsOf path'.toList :=
    congrArg segments (ofString_congr hPath)
  rw [join, join, ofString_congr hDir, hSegments]

end BuildSync.Path
