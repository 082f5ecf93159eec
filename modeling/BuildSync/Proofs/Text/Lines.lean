import BuildSync.Text.Lines

/-!
# The lines of joined texts

Texts that are joined by line feeds make at least as many lines as they are, and exactly as many
where no line ends inside one of them; the lines are then the texts.
-/

set_option autoImplicit false

namespace BuildSync.Text

/-- No line ends inside the text. -/
def OnOneLine (cs : List Char) : Prop := ∀ c ∈ cs, isLineBreak c = false

instance (cs : List Char) : Decidable (OnOneLine cs) :=
  List.decidableBAll (fun c => isLineBreak c = false) cs

theorem not_lineBreak_of_isAlphanum {c : Char} (h : c.isAlphanum = true) :
    isLineBreak c = false := by
  have hRange {low high : Char} (hIn : c.val ≥ low.val ∧ c.val ≤ high.val) :
      low.toNat ≤ c.toNat ∧ c.toNat ≤ high.toNat :=
    hIn.imp UInt32.le_iff_toNat_le.mp UInt32.le_iff_toNat_le.mp
  have hBounds : 48 ≤ c.toNat ∧ c.toNat ≤ 122 := by
    rcases Bool.or_eq_true_iff.mp h with hAlpha | hDigit
    · rcases Bool.or_eq_true_iff.mp hAlpha with hUpper | hLower
      · have hUpper := @hRange 'A' 'Z' (of_decide_eq_true hUpper)
        exact hUpper.imp (Nat.le_trans (by decide)) (Nat.le_trans · (by decide))
      · have hLower := @hRange 'a' 'z'
          ((Bool.and_eq_true_iff.mp hLower).imp of_decide_eq_true of_decide_eq_true)
        exact hLower.imp (Nat.le_trans (by decide)) (Nat.le_trans · (by decide))
    · have hDigit := @hRange '0' '9'
        ((Bool.and_eq_true_iff.mp hDigit).imp of_decide_eq_true of_decide_eq_true)
      exact hDigit.imp (Nat.le_trans (by decide)) (Nat.le_trans · (by decide))
  simp only [isLineBreak]
  grind

theorem onOneLine_append_iff {xs ys : List Char} :
    OnOneLine (xs ++ ys) ↔ OnOneLine xs ∧ OnOneLine ys := List.forall_mem_append

/-- The last character is there and ends no line. -/
def EndsInLine (cs : List Char) : Prop := ∃ c, cs.getLast? = some c ∧ isLineBreak c = false

theorem EndsInLine.of_cons {c : Char} {cs : List Char} (h : EndsInLine (c :: cs)) :
    cs = [] ∧ isLineBreak c = false ∨ EndsInLine cs := by
  obtain ⟨last, hLast, hBreak⟩ := h
  cases cs with
  | nil =>
    cases hLast
    exact Or.inl ⟨rfl, hBreak⟩
  | cons d ds => exact Or.inr ⟨last, hLast, hBreak⟩

theorem EndsInLine.ne_nil {cs : List Char} (h : EndsInLine cs) : cs ≠ [] := by
  rintro rfl
  obtain ⟨last, hLast, _⟩ := h
  cases hLast

theorem endsInLine_append {xs ys : List Char} (h : EndsInLine ys) : EndsInLine (xs ++ ys) := by
  obtain ⟨last, hLast, hBreak⟩ := h
  exact ⟨last, by rw [List.getLast?_append, hLast]; rfl, hBreak⟩

theorem linesFrom_cons_of_not_break {c : Char} (hc : isLineBreak c = false)
    (cs pending : List Char) : linesFrom (c :: cs) pending = linesFrom cs (c :: pending) := by
  rw [linesFrom]
  · simp [hc]
  · rintro rest rfl
    cases hc

theorem linesFrom_cons_of_break {c : Char} (hc : isLineBreak c = true) {cs : List Char}
    (hFeed : c = '\r' → cs.head? ≠ some '\n') (pending : List Char) :
    linesFrom (c :: cs) pending = pending.reverse :: linesFrom cs [] := by
  rw [linesFrom]
  · simp [hc]
  · rintro rest rfl rfl
    exact hFeed rfl rfl

/-- The lines of a text that is put in front of a line feed are those of the text alone. -/
theorem linesFrom_append_lineFeed {xs : List Char} (h : EndsInLine xs) (ys pending : List Char) :
    linesFrom (xs ++ '\n' :: ys) pending = linesFrom xs pending ++ linesFrom ys [] := by
  fun_induction linesFrom xs pending with
  | case1 => exact absurd rfl h.ne_nil
  | case2 => exact absurd rfl h.ne_nil
  | case3 rest pending ih =>
    rcases h.of_cons with ⟨hNil, _⟩ | h
    · cases hNil
    rcases h.of_cons with ⟨_, hFeed⟩ | h
    · cases hFeed
    exact congrArg (pending.reverse :: ·) (ih h)
  | case4 c rest pending hFeed hBreak ih =>
    rcases h.of_cons with ⟨_, hc⟩ | h
    · cases hc.symm.trans hBreak
    have hStop : c = '\r' → (rest ++ '\n' :: ys).head? ≠ some '\n' := by
      obtain ⟨last, hLast, _⟩ := h
      cases rest with
      | nil => cases hLast
      | cons d ds =>
        rintro hc hd
        cases hd
        exact hFeed ds hc rfl
    rw [List.cons_append, linesFrom_cons_of_break hBreak hStop, ih h]
    rfl
  | case5 c rest pending _ hBreak ih =>
    have hc : isLineBreak c = false := by simpa using hBreak
    rw [List.cons_append, linesFrom_cons_of_not_break hc]
    rcases h.of_cons with ⟨rfl, _⟩ | h
    · rfl
    · exact ih h

theorem linesFrom_ne_nil {cs : List Char} (h : EndsInLine cs) (pending : List Char) :
    linesFrom cs pending ≠ [] := by
  fun_induction linesFrom cs pending with
  | case1 => exact absurd rfl h.ne_nil
  | case2 => simp
  | case3 => simp
  | case4 => simp
  | case5 c rest pending _ _ ih =>
    rcases h.of_cons with ⟨rfl, _⟩ | h
    · simp [linesFrom]
    · exact ih h

theorem linesFrom_of_onOneLine {cs : List Char} (h : OnOneLine cs) {pending : List Char}
    (hne : cs ≠ []) : linesFrom cs pending = [pending.reverse ++ cs] := by
  induction cs generalizing pending with
  | nil => exact absurd rfl hne
  | cons c cs ih =>
    rw [linesFrom_cons_of_not_break (h c List.mem_cons_self)]
    by_cases hcs : cs = []
    · subst hcs
      simp [linesFrom]
    · rw [ih (fun d hd => h d (List.mem_cons_of_mem _ hd)) hcs]
      simp

/-- A text that ends in a line has one line only if none ends inside it. -/
theorem onOneLine_of_length {cs pending : List Char} (h : EndsInLine cs)
    (hOne : (linesFrom cs pending).length = 1) : OnOneLine cs := by
  fun_induction linesFrom cs pending with
  | case1 => exact absurd rfl h.ne_nil
  | case2 => exact fun c hc => nomatch hc
  | case3 rest pending ih =>
    rcases h.of_cons with ⟨hNil, _⟩ | h
    · cases hNil
    rcases h.of_cons with ⟨_, hFeed⟩ | h
    · cases hFeed
    have hRest := List.length_pos_iff.mpr (linesFrom_ne_nil h [])
    rw [List.length_cons] at hOne
    omega
  | case4 c rest pending _ hBreak ih =>
    rcases h.of_cons with ⟨_, hc⟩ | h
    · cases hc.symm.trans hBreak
    have hRest := List.length_pos_iff.mpr (linesFrom_ne_nil h [])
    rw [List.length_cons] at hOne
    omega
  | case5 c rest pending _ hBreak ih =>
    have hc : isLineBreak c = false := by simpa using hBreak
    refine List.forall_mem_cons.mpr ⟨hc, ?_⟩
    rcases h.of_cons with ⟨rfl, _⟩ | h
    · exact fun d hd => nomatch hd
    · exact ih h hOne

theorem linesFrom_intercalate {rows : List (List Char)} (h : ∀ row ∈ rows, EndsInLine row) :
    linesFrom (['\n'].intercalate rows) [] = rows.flatMap (linesFrom · []) := by
  induction rows with
  | nil => rfl
  | cons row rows ih =>
    cases rows with
    | nil => simp
    | cons next rows =>
      rw [List.intercalate_cons_cons, List.append_assoc, List.singleton_append,
        linesFrom_append_lineFeed (h row List.mem_cons_self),
        ih fun r hr => h r (List.mem_cons_of_mem _ hr)]
      simp only [List.flatMap_cons]

theorem length_le_flatMap_linesFrom {rows : List (List Char)} (h : ∀ row ∈ rows, EndsInLine row) :
    rows.length ≤ (rows.flatMap (linesFrom · [])).length ∧
      ((rows.flatMap (linesFrom · [])).length = rows.length ↔ ∀ row ∈ rows, OnOneLine row) := by
  induction rows with
  | nil => simp
  | cons row rows ih =>
    have hRow := h row List.mem_cons_self
    have hPos := List.length_pos_iff.mpr (linesFrom_ne_nil hRow [])
    have hOne : (linesFrom row []).length = 1 ↔ OnOneLine row := by
      refine ⟨onOneLine_of_length hRow, fun hLine => ?_⟩
      rw [linesFrom_of_onOneLine hLine hRow.ne_nil]
      rfl
    obtain ⟨hLe, hAll⟩ := ih fun r hr => h r (List.mem_cons_of_mem _ hr)
    rw [List.flatMap_cons, List.length_append, List.length_cons, List.forall_mem_cons, ← hOne,
      ← hAll]
    omega

theorem flatMap_linesFrom_eq_self {rows : List (List Char)} (hEnds : ∀ row ∈ rows, EndsInLine row)
    (h : ∀ row ∈ rows, OnOneLine row) : rows.flatMap (linesFrom · []) = rows := by
  have hRow : ∀ row ∈ rows, linesFrom row [] = [row] := fun row hr =>
    linesFrom_of_onOneLine (h row hr) (hEnds row hr).ne_nil
  rw [List.flatMap_def, List.map_congr_left hRow, ← List.flatMap_def, List.flatMap_singleton']

end BuildSync.Text
