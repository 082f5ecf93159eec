import BuildSync.Proofs.Path.Context

/-!
# Names between slashes

A text read as slashes in front and names between slashes. Normalizing and joining print such a
reading again, which gives the laws of both. Looking from a context directory takes the names of
the directory off as a whole, or leaves the names of the path as they are.
-/

set_option autoImplicit false

namespace BuildSync.Path

/-- The names between the slashes of a text; empty ones and dots are left out. -/
def names (s : String) : List (List Char) :=
  (s.toList.splitOn '/').filter fun name => name ≠ [] ∧ name ≠ ['.']

/-- The slashes in front of a text that are kept: three or more count as one. -/
def leading (s : String) : Nat :=
  let slashes := (s.toList.takeWhile (· == '/')).length
  if slashes ≤ 2 then slashes else 1

/-- Slashes and the names behind them as a text, a dot where that is nothing. -/
def printed (slashes : Nat) (names : List (List Char)) : String :=
  let text := List.replicate slashes '/' ++ ['/'].intercalate names
  if text = [] then "." else String.ofList text

theorem pieces_eq_splitOn (cs : List Char) : pieces cs = cs.splitOn '/' := by
  induction cs with
  | nil => rfl
  | cons c cs ih =>
    rw [List.splitOn_cons_eq_if_modifyHead, ← ih]
    by_cases hc : c = '/'
    · subst hc
      exact pieces_slash cs
    · obtain ⟨p, ps, hp, hcs⟩ := pieces_cons hc cs
      rw [hcs, hp]
      simp [hc]

theorem segmentsOf_eq_names (s : String) : segmentsOf s.toList = names s := by
  have hSegment : ∀ name, isSegment name = decide (name ≠ [] ∧ name ≠ ['.']) := by
    intro name
    rw [Bool.eq_iff_iff]
    simp [isSegment]
  rw [segmentsOf, names, pieces_eq_splitOn]
  exact List.filter_congr fun name _ => hSegment name

theorem takeWhile_slash_eq_nil {cs : List Char} (h : ∀ tail, cs ≠ '/' :: tail) :
    cs.takeWhile (· == '/') = [] := by
  cases cs with
  | nil => rfl
  | cons c tail =>
    have hc : c ≠ '/' := fun hc => h tail (by rw [hc])
    simp [hc]

theorem text_rootOf (s : String) :
    (rootOf s.toList).text = List.replicate (leading s) '/' := by
  unfold leading
  generalize s.toList = cs
  fun_cases rootOf cs with
  | case1 tail => simp [Root.text]
  | case2 tail hTail => simp [Root.text, takeWhile_slash_eq_nil hTail]
  | case3 tail _ hTail => simp [Root.text, takeWhile_slash_eq_nil hTail]
  | case4 _ _ _ hNone => simp [Root.text, takeWhile_slash_eq_nil hNone]

theorem rootOf_eq_iff {s t : String} :
    rootOf s.toList = rootOf t.toList ↔ leading s = leading t := by
  have hLength : ∀ s : String, leading s = (rootOf s.toList).text.length := fun s => by
    rw [text_rootOf, List.length_replicate]
  rw [hLength, hLength]
  cases rootOf s.toList <;> cases rootOf t.toList <;> simp [Root.text]

theorem slashed_eq_intercalate (segments : List (List Char)) :
    slashed segments = ['/'].intercalate segments := by
  fun_induction slashed segments with
  | case1 => rfl
  | case2 s => simp
  | case3 s t rest ih => simp [ih]

/-- The text of a path is its reading printed. -/
theorem toString_eq_printed (s : String) (segments : List (List Char))
    (h : ∀ t ∈ segments, Segment t) :
    (⟨rootOf s.toList, segments⟩ : Path).toString = printed (leading s) segments := by
  have hText : (⟨rootOf s.toList, segments⟩ : Path).toString =
      if (rootOf s.toList).text ++ slashed segments = [] then "." else
        String.ofList ((rootOf s.toList).text ++ slashed segments) := by
    by_cases hEmpty : rootOf s.toList = .relative ∧ segments = []
    · rw [hEmpty.1, hEmpty.2]
      rfl
    · have hList := toList_eq (p := ⟨rootOf s.toList, segments⟩) hEmpty
      have hWellFormed : (⟨rootOf s.toList, segments⟩ : Path).WellFormed := h
      rw [← hList, if_neg (toList_ne_nil hWellFormed), toString]
  rw [hText, text_rootOf, slashed_eq_intercalate, printed]

theorem normalize_eq_printed (path : String) :
    normalize path = if path = "" then "" else printed (leading path) (names path) := by
  rw [normalize, ← segmentsOf_eq_names]
  split
  · rfl
  · exact toString_eq_printed path _ fun _ => segment_of_mem_segmentsOf

theorem join_eq_printed (dir path : String) :
    join dir path = printed (leading dir) (names dir ++ names path) := by
  rw [← segmentsOf_eq_names, ← segmentsOf_eq_names]
  exact toString_eq_printed dir _ (wellFormed_join dir path)

theorem join_assoc (a b c : String) : join (join a b) c = join a (join b c) := by
  have hInner : segmentsOf (join b c).toList = segmentsOf b.toList ++ segmentsOf c.toList :=
    congrArg segments (ofString_join b c)
  rw [join, ofString_join, join, hInner]
  simp only [append, List.append_assoc]

/-- Normal forms and joins are printed readings, and obey the laws of appending names. -/
theorem join_laws (a b c : String) :
    normalize a = (if a = "" then "" else printed (leading a) (names a)) ∧
      join a b = printed (leading a) (names a ++ names b) ∧
      normalize (normalize a) = normalize a ∧
      normalize (join a b) = join a b ∧
      join a b = join (normalize a) (normalize b) ∧
      join (join a b) c = join a (join b c) :=
  ⟨normalize_eq_printed a, join_eq_printed a b, normalize_normalize a, normalize_join a b,
    join_congr (normalize_normalize a).symm (normalize_normalize b).symm, join_assoc a b c⟩

example : normalize "///./a//.hidden/../" = "/a/.hidden/.." ∧ join "//" "./" = "//" ∧
    join "" "/." = "." := by
  decide

/-! ### Seen from a directory -/

theorem segmentsOf_dropWhile_slash (cs : List Char) :
    segmentsOf (cs.dropWhile (· == '/')) = segmentsOf cs := by
  induction cs with
  | nil => rfl
  | cons c cs ih =>
    by_cases hc : c = '/'
    · subst hc
      rw [segmentsOf_slash, ← ih]
      rfl
    · simp [hc]

theorem segmentsOf_append_slash (xs ys : List Char) :
    segmentsOf (xs ++ '/' :: ys) = segmentsOf xs ++ segmentsOf ys := by
  rw [segmentsOf, pieces_append_slash, List.filter_append]
  rfl

/-- Either nothing is taken off, or the names of the directory in front. -/
theorem segmentsOf_withoutDirectory {p dir : Path} (hp : p.WellFormed) (hdir : dir.WellFormed)
    (hSlash : dir.toString ≠ "/") :
    segmentsOf (withoutDirectory p.toString dir.toString).toList = p.segments ∨
      p.segments = dir.segments ++
        segmentsOf (withoutDirectory p.toString dir.toString).toList := by
  have hSame : segmentsOf p.toString.toList = p.segments := congrArg segments (ofString_toString hp)
  by_cases hSlashes : dir.toString = "//"
  · left
    rw [hSlashes, withoutDirectory_doubleSlash, hSame]
  · have hLead := toList_withoutTrailingSlashes fun h =>
      (toString_of_getLast hdir h).elim hSlash hSlashes
    have hText : p.toString.toList = p.toList := String.toList_ofList
    have hDirectory : segmentsOf dir.toList = dir.segments :=
      congrArg segments (ofList_toList hdir)
    rw [hText] at hSame
    simp only [withoutDirectory, hLead, if_neg (toList_ne_nil hdir), hText]
    split
    · rename_i rest hRest
      right
      rw [String.toList_ofList, ← hSame, ← hDirectory]
      rcases afterDirectory_eq_some_iff.mp hRest with ⟨hItself, rfl⟩ | hBelow
      · rw [hItself]
        exact (List.append_nil _).symm
      · rw [hBelow, segmentsOf_append_slash]
    · left
      rw [hText, hSame]

theorem withoutDirectory_empty (dir : String) : withoutDirectory "" dir = "" := by
  unfold withoutDirectory afterDirectory
  cases (withoutTrailingSlashes dir).toList <;> rfl

theorem fromContext_empty (dir : String) : fromContext "" dir = "" := by
  have hNormal : normalize "" = "" := rfl
  simp only [fromContext, hNormal, withoutDirectory_empty]
  exact ite_self _

theorem segmentsOf_fromContext_cases (path dir : String) :
    segmentsOf (fromContext path dir).toList = segmentsOf path.toList ∨
      segmentsOf path.toList =
        segmentsOf dir.toList ++ segmentsOf (fromContext path dir).toList := by
  have hNormal : segmentsOf (normalize path).toList = segmentsOf path.toList :=
    congrArg segments (ofString_normalize path)
  by_cases hPath : path = ""
  · left
    rw [hPath, fromContext_empty]
  by_cases hDir : dir = ""
  · left
    rw [hDir]
    exact hNormal
  unfold fromContext
  simp only
  split
  · left
    rw [withoutLeadingSlashes, String.toList_ofList, segmentsOf_dropWhile_slash, hNormal]
  · rename_i hSlash
    rw [normalize_of_ne hDir] at hSlash
    rw [normalize_of_ne hPath, normalize_of_ne hDir]
    exact segmentsOf_withoutDirectory (wellFormed_ofString path) (wellFormed_ofString dir) hSlash

/-- A path in a directory, or the directory itself, loses all names of the directory. -/
theorem segmentsOf_fromContext_of_inside {path dir : String} {rest : List (List Char)}
    (hDir : segmentsOf dir.toList ≠ []) (h : ofString path = (ofString dir).append rest) :
    segmentsOf (fromContext path dir).toList = rest := by
  have hne : dir ≠ "" := by
    rintro rfl
    exact hDir rfl
  by_cases hRest : rest = []
  · have hSame : ofString path = ofString dir := by
      rw [h, hRest, append, List.append_nil]
    have hPath : path ≠ "" := by
      rintro rfl
      exact hDir (congrArg segments hSame).symm
    have hRoot : normalize dir ≠ "//" := by
      intro hRoot
      exact hDir (congrArg segments ((eq_doubleSlash_iff hne).mpr hRoot))
    have hVanishes : VanishesIn path dir := by
      left
      rw [normalize_of_ne hPath, hSame, ← normalize_of_ne hne]
      exact ⟨rfl, hRoot⟩
    rw [(fromContext_eq_empty_iff hPath hne).mpr hVanishes, hRest]
    rfl
  · exact segmentsOf_fromContext hne hRest h

/-- The names seen from a directory are those of the path, all of them or without those of the
directory in front. They are the latter where the path lies in the directory. -/
theorem names_fromContext (path dir : String) :
    (names (fromContext path dir) = names path ∨
        names dir <+: names path ∧
          names (fromContext path dir) = (names path).drop (names dir).length) ∧
      (names dir ≠ [] → leading path = leading dir → names dir <+: names path →
        names (fromContext path dir) = (names path).drop (names dir).length) := by
  simp only [← segmentsOf_eq_names, ← rootOf_eq_iff]
  constructor
  · rcases segmentsOf_fromContext_cases path dir with hSame | hBelow
    · exact Or.inl hSame
    · right
      rw [hBelow, List.drop_left]
      exact ⟨List.prefix_append _ _, rfl⟩
  · rintro hDir hRoot ⟨rest, hRest⟩
    have hInside : ofString path = (ofString dir).append rest := by
      rw [ofString, ofList, hRoot, ← hRest]
      rfl
    rw [segmentsOf_fromContext_of_inside hDir hInside, ← hRest, List.drop_left]

theorem names_fromContext_below_src :
    names "src/" ≠ [] ∧ leading "./src//srcs/.x" = leading "src/" ∧
      names "src/" <+: names "./src//srcs/.x" ∧
      names (fromContext "./src//srcs/.x" "src/") = ["srcs".toList, ".x".toList] := by
  have hDir : names "src/" ≠ [] := by decide
  have hRoot : leading "./src//srcs/.x" = leading "src/" := by decide
  have hPrefix : names "src/" <+: names "./src//srcs/.x" := by decide
  exact ⟨hDir, hRoot, hPrefix,
    ((names_fromContext "./src//srcs/.x" "src/").2 hDir hRoot hPrefix).trans (by decide)⟩

end BuildSync.Path
