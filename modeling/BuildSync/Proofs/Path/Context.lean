import BuildSync.Proofs.Path.NormalForm

/-!
# Paths seen from a context directory

A path strictly inside a directory loses exactly the segments of the directory, whatever the
spelling of both, and joining it under the directory again gives its normal form. Nothing is left
of a path that is the directory itself. The other way round, a path that was joined under a
directory comes back without its leading slashes, unless the directory is two slashes alone.
-/

set_option autoImplicit false

namespace BuildSync.Path

/-- Both have the same root, and the segments of the directory are followed by others. -/
def StrictlyInside (path dir : Path) : Prop :=
  path.root = dir.root ∧ dir.segments <+: path.segments ∧ dir.segments ≠ path.segments

theorem strictlyInside_iff {path dir : Path} :
    path.StrictlyInside dir ↔ ∃ rest, rest ≠ [] ∧ path = dir.append rest := by
  obtain ⟨root, segments⟩ := path
  obtain ⟨dirRoot, dirSegments⟩ := dir
  constructor
  · rintro ⟨hRoot, ⟨rest, hRest⟩, hne⟩
    cases hRoot
    cases hRest
    refine ⟨rest, ?_, rfl⟩
    rintro rfl
    exact hne (List.append_nil _).symm
  · rintro ⟨rest, hne, h⟩
    cases h
    exact ⟨rfl, List.prefix_append _ _, by simpa using hne⟩

theorem slashed_append {xs ys : List (List Char)} (hxs : xs ≠ []) (hys : ys ≠ []) :
    slashed (xs ++ ys) = slashed xs ++ '/' :: slashed ys := by
  fun_induction slashed xs with
  | case1 => exact absurd rfl hxs
  | case2 s =>
    obtain ⟨t, rest, rfl⟩ := List.exists_cons_of_ne_nil hys
    rfl
  | case3 s t rest ih =>
    have hTail := ih (List.cons_ne_nil t rest)
    simp only [List.cons_append] at hTail
    simp only [List.cons_append, slashed, hTail, List.append_assoc]

theorem slashed_ne_nil {segments : List (List Char)} (hne : segments ≠ [])
    (h : ∀ s ∈ segments, Segment s) : slashed segments ≠ [] := by
  intro hNil
  apply hne
  rw [← segmentsOf_slashed h, hNil]
  rfl

theorem getLast_slashed {segments : List (List Char)} (h : ∀ s ∈ segments, Segment s) :
    (slashed segments).getLast? ≠ some '/' := by
  fun_induction slashed segments with
  | case1 => simp
  | case2 s =>
    intro hLast
    exact (h s List.mem_cons_self).2 (List.mem_of_getLast? hLast)
  | case3 s t rest ih =>
    have hTail : ∀ u ∈ t :: rest, Segment u := fun u hu => h u (List.mem_cons_of_mem _ hu)
    obtain ⟨c, cs, hcs⟩ := List.exists_cons_of_ne_nil (slashed_ne_nil (List.cons_ne_nil t rest) hTail)
    have hLast := ih hTail
    rw [hcs] at hLast ⊢
    simpa [List.getLast?_append] using hLast

theorem withoutTrailingSlashes_eq_self {cs : List Char} (h : cs.getLast? ≠ some '/') :
    withoutTrailingSlashes (String.ofList cs) = String.ofList cs := by
  have hReverse : cs.reverse.dropWhile (· == '/') = cs.reverse := by
    cases hcs : cs.reverse with
    | nil => rfl
    | cons c rest =>
      have hc : c ≠ '/' := by simpa [← List.head?_reverse, hcs] using h
      simp [hc]
  simp [withoutTrailingSlashes, hReverse]

theorem getLast_toList {p : Path} (hp : p.WellFormed) (hne : p.segments ≠ []) :
    p.toList.getLast? ≠ some '/' := by
  obtain ⟨c, cs, hcs⟩ := List.exists_cons_of_ne_nil (slashed_ne_nil hne hp)
  have hLast := getLast_slashed hp
  rw [hcs] at hLast
  rw [toList_eq fun h => hne h.2, hcs]
  simpa [List.getLast?_append] using hLast

theorem toList_withoutTrailingSlashes {p : Path} (h : p.toList.getLast? ≠ some '/') :
    (withoutTrailingSlashes p.toString).toList = p.toList := by
  rw [toString, withoutTrailingSlashes_eq_self h, String.toList_ofList]

theorem toList_append {p : Path} (hp : p.segments ≠ []) {rest : List (List Char)}
    (hrest : rest ≠ []) : (p.append rest).toList = p.toList ++ '/' :: slashed rest := by
  have hAll : ¬((p.append rest).root = .relative ∧ (p.append rest).segments = []) :=
    fun h => hp (List.append_eq_nil_iff.mp h.2).1
  rw [toList_eq hAll, toList_eq fun h => hp h.2]
  simp only [append, slashed_append hp hrest, List.append_assoc]

theorem afterDirectory_eq_some_iff {lead cs rest : List Char} :
    afterDirectory lead cs = some rest ↔
      cs = lead ∧ rest = [] ∨ cs = lead ++ '/' :: rest := by
  unfold afterDirectory
  by_cases hLead : lead.isPrefixOf cs = true
  · obtain ⟨tail, rfl⟩ := List.isPrefixOf_iff_prefix.mp hLead
    rw [if_pos hLead, List.drop_left]
    cases tail with
    | nil => simp [eq_comm]
    | cons c tail =>
      by_cases hc : c = '/'
      · simp [hc]
      · simp [hc]
  · rw [if_neg hLead]
    refine iff_of_false nofun ?_
    rintro (⟨rfl, _⟩ | rfl)
    · exact hLead (List.isPrefixOf_iff_prefix.mpr List.prefix_rfl)
    · exact hLead (List.isPrefixOf_iff_prefix.mpr (List.prefix_append _ _))

theorem afterDirectory_dot {segments : List (List Char)} (hne : segments ≠ [])
    (h : ∀ s ∈ segments, Segment s) : afterDirectory ['.'] (slashed segments) = none := by
  obtain ⟨s, rest, rfl⟩ := List.exists_cons_of_ne_nil hne
  have hs := h s List.mem_cons_self
  obtain ⟨c, cs, rfl⟩ := List.exists_cons_of_ne_nil hs.ne_nil
  by_cases hc : c = '.'
  · subst hc
    have hcs : cs ≠ [] := by
      rintro rfl
      exact hs.ne_dot rfl
    obtain ⟨d, ds, rfl⟩ := List.exists_cons_of_ne_nil hcs
    have hd : d ≠ '/' := by
      rintro rfl
      exact hs.2 (List.mem_cons_of_mem _ List.mem_cons_self)
    cases rest <;> simp [slashed, afterDirectory, hd]
  · cases rest <;> simp [slashed, afterDirectory, Ne.symm hc]

theorem withoutDirectory_toString {dir : Path} (hdir : dir.WellFormed) (hne : dir.segments ≠ [])
    {rest : List (List Char)} (hrest : rest ≠ []) :
    withoutDirectory (dir.append rest).toString dir.toString = String.ofList (slashed rest) := by
  have hLead := toList_withoutTrailingSlashes (getLast_toList hdir hne)
  have hBelow : afterDirectory dir.toList (dir.append rest).toList = some (slashed rest) :=
    afterDirectory_eq_some_iff.mpr (Or.inr (toList_append hne hrest))
  simp only [withoutDirectory, hLead, if_neg (toList_ne_nil hdir)]
  rw [toString, String.toList_ofList, hBelow]

theorem withoutDirectory_dot {segments : List (List Char)} (hne : segments ≠ [])
    (h : ∀ s ∈ segments, Segment s) :
    withoutDirectory (String.ofList (slashed segments)) "." = String.ofList (slashed segments) := by
  have hLead : (withoutTrailingSlashes ".").toList = ['.'] := by decide
  simp [withoutDirectory, hLead, afterDirectory_dot hne h]

theorem withoutDirectory_doubleSlash (path : String) : withoutDirectory path "//" = path := by
  have hLead : (withoutTrailingSlashes "//").toList = [] := by decide
  simp [withoutDirectory, hLead]

theorem withoutLeadingSlashes_root (root : Root) {cs : List Char} (h : cs.head? ≠ some '/') :
    withoutLeadingSlashes (String.ofList (root.text ++ cs)) = String.ofList cs := by
  have hStop : cs.dropWhile (· == '/') = cs := by
    cases cs with
    | nil => rfl
    | cons c cs =>
      have hc : c ≠ '/' := by simpa using h
      simp [hc]
  cases root <;> simp [withoutLeadingSlashes, Root.text, hStop]

/-- The root that is left of a path below a directory: two slashes alone are not taken off. -/
def rootBelow (dir : Path) : Root := if dir = ⟨.doubleSlash, []⟩ then .doubleSlash else .relative

theorem rootBelow_of_segments {dir : Path} (h : dir.segments ≠ []) : dir.rootBelow = .relative := by
  refine if_neg fun hRoot => h ?_
  rw [hRoot]

theorem toString_eq {p : Path} (h : p.segments ≠ []) :
    p.toString = String.ofList (p.root.text ++ slashed p.segments) :=
  congrArg String.ofList (toList_eq fun hEmpty => h hEmpty.2)

theorem fromContext_root {path dir : String} {root : Root} {rest : List (List Char)}
    (hpath : normalize path = (⟨root, rest⟩ : Path).toString)
    (hdir : normalize dir = (⟨root, []⟩ : Path).toString)
    (hrest : rest ≠ []) (h : ∀ s ∈ rest, Segment s) :
    fromContext path dir = (⟨rootBelow ⟨root, []⟩, rest⟩ : Path).toString := by
  rw [toString_eq hrest] at hpath ⊢
  simp only [fromContext, hpath, hdir]
  cases root with
  | relative =>
    have hDot : (⟨.relative, []⟩ : Path).toString = "." := by decide
    rw [hDot, if_neg (by decide), Root.text, List.nil_append, withoutDirectory_dot hrest h]
    rfl
  | slash =>
    have hSlash : (⟨.slash, []⟩ : Path).toString = "/" := by decide
    rw [hSlash, if_pos rfl, withoutLeadingSlashes_root .slash (head_slashed h)]
    rfl
  | doubleSlash =>
    have hSlashes : (⟨.doubleSlash, []⟩ : Path).toString = "//" := by decide
    rw [hSlashes, if_neg (by decide), withoutDirectory_doubleSlash]
    rfl

theorem ne_empty_of_append {path : String} {dir : Path} {rest : List (List Char)} (hrest : rest ≠ [])
    (h : ofString path = dir.append rest) : path ≠ "" := by
  rintro rfl
  exact hrest (List.append_eq_nil_iff.mp (congrArg segments h).symm).2

theorem segment_of_append {path : String} {dir : Path} {rest : List (List Char)}
    (h : ofString path = dir.append rest) : ∀ s ∈ rest, Segment s := fun s hs =>
  wellFormed_ofString path s (by rw [h]; exact List.mem_append_right _ hs)

/-- What lies below a directory is what is seen from it. -/
theorem fromContext_of_append {path dir : String} (hdir : dir ≠ "") {rest : List (List Char)}
    (hrest : rest ≠ []) (h : ofString path = (ofString dir).append rest) :
    fromContext path dir = (⟨(ofString dir).rootBelow, rest⟩ : Path).toString := by
  have hSegments := segment_of_append h
  have hNormal := normalize_of_ne (ne_empty_of_append hrest h)
  rw [h] at hNormal
  by_cases hne : (ofString dir).segments = []
  · have hDir : ofString dir = ⟨(ofString dir).root, []⟩ := by rw [← hne]
    rw [append, hne, List.nil_append] at hNormal
    rw [hDir]
    exact fromContext_root hNormal ((normalize_of_ne hdir).trans (congrArg toString hDir))
      hrest hSegments
  · have hNotRoot : (ofString dir).toString ≠ "/" := by
      intro hSlash
      apply hne
      rw [← ofString_toString (wellFormed_ofString dir), hSlash]
      rfl
    simp only [fromContext, hNormal, normalize_of_ne hdir, if_neg hNotRoot]
    rw [withoutDirectory_toString (wellFormed_ofString dir) hne hrest, rootBelow_of_segments hne,
      toString_eq hrest]
    rfl

theorem segmentsOf_fromContext {path dir : String} (hdir : dir ≠ "") {rest : List (List Char)}
    (hrest : rest ≠ []) (h : ofString path = (ofString dir).append rest) :
    segmentsOf (fromContext path dir).toList = rest := by
  have hSeen := ofString_toString (p := ⟨(ofString dir).rootBelow, rest⟩) (segment_of_append h)
  rw [← fromContext_of_append hdir hrest h] at hSeen
  exact congrArg segments hSeen

theorem fromContext_ne_empty {path dir : String} (hdir : dir ≠ "")
    (h : (ofString path).StrictlyInside (ofString dir)) : fromContext path dir ≠ "" := by
  obtain ⟨rest, hrest, hPath⟩ := strictlyInside_iff.mp h
  intro hEmpty
  apply hrest
  rw [← segmentsOf_fromContext hdir hrest hPath, hEmpty]
  rfl

theorem fromContext_congr {path path' dir dir' : String} (hPath : normalize path = normalize path')
    (hDir : normalize dir = normalize dir') : fromContext path dir = fromContext path' dir' := by
  rw [fromContext, fromContext, hPath, hDir]

/-- Joining undoes looking from the context directory, up to the spelling of the path. -/
theorem join_fromContext {path dir : String} (hdir : dir ≠ "")
    (h : (ofString path).StrictlyInside (ofString dir)) :
    join dir (fromContext path dir) = normalize path := by
  obtain ⟨rest, hrest, hPath⟩ := strictlyInside_iff.mp h
  have hpath := ne_empty_of_append hrest hPath
  rw [join, segmentsOf_fromContext hdir hrest hPath, ← hPath, normalize_of_ne hpath]

/-! ### The directory itself -/

/-- A path without segments is its root. -/
theorem segments_eq_nil_iff {p : Path} (hp : p.WellFormed) :
    p.segments = [] ↔ p.toString = "." ∨ p.toString = "/" ∨ p.toString = "//" := by
  constructor
  · obtain ⟨root, segments⟩ := p
    rintro rfl
    cases root <;> decide
  · intro h
    rw [← ofString_toString hp]
    rcases h with h | h | h <;> rw [h] <;> rfl

theorem toString_of_getLast {p : Path} (hp : p.WellFormed) (h : p.toList.getLast? = some '/') :
    p.toString = "/" ∨ p.toString = "//" := by
  by_cases hne : p.segments = []
  · rcases (segments_eq_nil_iff hp).mp hne with hDot | hRoot
    · have hText : p.toList = ['.'] := String.ofList_injective hDot
      rw [hText] at h
      cases h
    · exact hRoot
  · exact absurd h (getLast_toList hp hne)

theorem withoutLeadingSlashes_eq_empty_iff {p : Path} (hp : p.WellFormed) :
    withoutLeadingSlashes p.toString = "" ↔ p.toString = "/" ∨ p.toString = "//" := by
  by_cases hne : p.segments = []
  · rcases (segments_eq_nil_iff hp).mp hne with h | h | h <;> rw [h] <;> decide
  · have hSlashes : ¬(p.toString = "/" ∨ p.toString = "//") := fun h =>
      hne ((segments_eq_nil_iff hp).mpr (Or.inr h))
    refine iff_of_false ?_ hSlashes
    rw [toString_eq hne, withoutLeadingSlashes_root p.root (head_slashed hp)]
    exact fun h => slashed_ne_nil hne hp (String.ofList_eq_empty_iff.mp h)

section

variable {p dir : Path} (hp : p.WellFormed) (hdir : dir.WellFormed) (hSlash : dir.toString ≠ "/")

include hp hdir hSlash

theorem afterDirectory_eq_nil_iff :
    afterDirectory dir.toList p.toList = some [] ↔ p.toList = dir.toList := by
  rw [afterDirectory_eq_some_iff]
  constructor
  · rintro (⟨hSame, _⟩ | hBelow)
    · exact hSame
    -- A normal form that ends in a slash is a root, and the directory would be nothing or one slash.
    · have hLast : p.toList.getLast? = some '/' := by rw [hBelow, List.getLast?_concat]
      rcases toString_of_getLast hp hLast with hRoot | hRoot
      · have hText : dir.toList ++ ['/'] = [] ++ ['/'] :=
          hBelow.symm.trans (String.ofList_injective hRoot)
        exact absurd (List.append_cancel_right hText) (toList_ne_nil hdir)
      · have hText : dir.toList ++ ['/'] = ['/'] ++ ['/'] :=
          hBelow.symm.trans (String.ofList_injective hRoot)
        exact absurd (congrArg String.ofList (List.append_cancel_right hText)) hSlash
  · exact fun hSame => Or.inl ⟨hSame, rfl⟩

theorem withoutDirectory_eq_empty_iff :
    withoutDirectory p.toString dir.toString = "" ↔
      p.toString = dir.toString ∧ dir.toString ≠ "//" := by
  by_cases hSlashes : dir.toString = "//"
  · rw [hSlashes, withoutDirectory_doubleSlash]
    exact iff_of_false (toString_ne_empty hp) fun h => h.2 rfl
  · have hLead := toList_withoutTrailingSlashes fun h =>
      (toString_of_getLast hdir h).elim hSlash hSlashes
    have hText : p.toString.toList = p.toList := String.toList_ofList
    have hItself := afterDirectory_eq_nil_iff hp hdir hSlash
    simp only [withoutDirectory, hLead, if_neg (toList_ne_nil hdir), hText]
    rw [and_iff_left hSlashes, toString, toString, String.ofList_inj, ← hItself]
    split
    · rename_i rest hRest
      rw [hRest, Option.some_inj, String.ofList_eq_empty_iff]
    · rename_i hNone
      rw [hNone]
      exact iff_of_false (toString_ne_empty hp) (Option.some_ne_none []).symm

end

/-- The path is the directory itself, and all of it is taken off. Two slashes alone are taken off in
the directory of one slash only. -/
def VanishesIn (path dir : String) : Prop :=
  normalize path = normalize dir ∧ normalize dir ≠ "//" ∨
    normalize path = "//" ∧ normalize dir = "/"

theorem fromContext_eq_empty_iff {path dir : String} (hPath : path ≠ "") (hDir : dir ≠ "") :
    fromContext path dir = "" ↔ VanishesIn path dir := by
  have hp := wellFormed_ofString path
  have hdir := wellFormed_ofString dir
  simp only [fromContext, VanishesIn, normalize_of_ne hPath, normalize_of_ne hDir]
  split
  · rename_i hSlash
    rw [withoutLeadingSlashes_eq_empty_iff hp, hSlash]
    simp
  · rename_i hSlash
    rw [withoutDirectory_eq_empty_iff hp hdir hSlash]
    simp [hSlash]

/-! ### After a join -/

theorem toString_relative {rest : List (List Char)} (hrest : rest ≠ []) :
    (⟨.relative, rest⟩ : Path).toString = String.ofList (slashed rest) := toString_eq hrest

theorem withoutLeadingSlashes_normalize {path : String} (h : segmentsOf path.toList ≠ []) :
    withoutLeadingSlashes (normalize path) =
      (⟨.relative, segmentsOf path.toList⟩ : Path).toString := by
  have hne : path ≠ "" := by
    rintro rfl
    exact h rfl
  rw [normalize_of_ne hne, toString_eq h, toString_relative h]
  exact withoutLeadingSlashes_root _ (head_slashed fun _ => segment_of_mem_segmentsOf)

theorem eq_doubleSlash_iff {dir : String} (hDir : dir ≠ "") :
    ofString dir = ⟨.doubleSlash, []⟩ ↔ normalize dir = "//" := by
  constructor
  · intro h
    rw [normalize_of_ne hDir, h]
    decide
  · intro h
    rw [← ofString_normalize dir, h]
    decide

/-- Looking from the directory undoes joining exactly where the directory is not two slashes alone;
these stay in front of the path. -/
theorem fromContext_join {path dir : String} (hDir : dir ≠ "")
    (hPath : segmentsOf path.toList ≠ []) :
    (fromContext (join dir path) dir = withoutLeadingSlashes (normalize path) ↔
        normalize dir ≠ "//") ∧
      (normalize dir = "//" →
        fromContext (join dir path) dir = "//" ++ withoutLeadingSlashes (normalize path)) := by
  have hSeen := fromContext_of_append hDir hPath (ofString_join dir path)
  rw [withoutLeadingSlashes_normalize hPath, hSeen]
  by_cases hRoot : normalize dir = "//"
  · have hBelow : (ofString dir).rootBelow = .doubleSlash :=
      if_pos ((eq_doubleSlash_iff hDir).mpr hRoot)
    have hSlashes : (⟨.doubleSlash, segmentsOf path.toList⟩ : Path).toString =
        "//" ++ (⟨.relative, segmentsOf path.toList⟩ : Path).toString := by
      rw [toString_eq hPath, toString_relative hPath]
      exact String.ofList_append
    rw [hBelow, hSlashes]
    refine ⟨iff_of_false ?_ (not_not_intro hRoot), fun _ => rfl⟩
    intro hSame
    have hLength := congrArg String.length hSame
    simp [String.length_append] at hLength
  · have hBelow : (ofString dir).rootBelow = .relative :=
      if_neg (mt (eq_doubleSlash_iff hDir).mp hRoot)
    rw [hBelow]
    exact ⟨iff_of_true rfl hRoot, fun h => absurd h hRoot⟩

theorem fromContext_join_dots :
    ("./src//.." : String) ≠ "" ∧ segmentsOf "//ci/./Jenkinsfile/".toList ≠ [] ∧
      join "./src//.." "//ci/./Jenkinsfile/" = "src/../ci/Jenkinsfile" ∧
      fromContext "src/../ci/Jenkinsfile" "./src//.." = "ci/Jenkinsfile" := by
  have hDir : ("./src//.." : String) ≠ "" := by decide
  have hPath : segmentsOf "//ci/./Jenkinsfile/".toList ≠ [] := by decide
  have hJoined : join "./src//.." "//ci/./Jenkinsfile/" = "src/../ci/Jenkinsfile" := by decide
  have hSeen := (fromContext_join hDir hPath).1.mpr (by decide)
  rw [hJoined] at hSeen
  exact ⟨hDir, hPath, hJoined, hSeen.trans (by decide)⟩

/-- The two slashes of the directory are still there. -/
theorem fromContext_join_doubleSlash :
    ("//" : String) ≠ "" ∧ segmentsOf "a".toList ≠ [] ∧ fromContext (join "//" "a") "//" = "//a" ∧
      fromContext (join "//" "a") "//" ≠ withoutLeadingSlashes (normalize "a") := by
  decide

end BuildSync.Path
