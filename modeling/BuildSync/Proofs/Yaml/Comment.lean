import BuildSync.Proofs.Yaml.Document

/-!
# Comments in front of a text

A comment on a line of its own in front of a text changes nothing about its value, as long as the
comment can be read at all.
-/

set_option autoImplicit false

namespace BuildSync.Yaml

theorem Cursor.skip_run (run : List Char) (h : ∀ c ∈ run, isLineEnd c = false)
    (rest : List Char) (index line column : Nat) :
    ∃ after, (Cursor.mk (run ++ rest) index line column).skip run.length =
      ⟨rest, index + run.length, line, after⟩ := by
  induction run generalizing index column with
  | nil => exact ⟨column, rfl⟩
  | cons c run ih =>
    have hEnd := h c List.mem_cons_self
    have hFeed : (c == '\n') = false := by
      simp only [isLineEnd, isAnyBreak, Bool.or_eq_false_iff] at hEnd
      exact hEnd.2.1.1.1.2
    have hReturn : (c == '\r') = false := by
      simp only [isLineEnd, isAnyBreak, Bool.or_eq_false_iff] at hEnd
      exact hEnd.2.1.1.1.1
    have hNext : ∃ after, (Cursor.mk (c :: (run ++ rest)) index line column).next =
        ⟨run ++ rest, index + 1, line, after⟩ := by
      simp only [Cursor.next, hFeed, hReturn, Bool.false_and, Bool.or_false, Bool.false_eq_true,
        if_false]
      split_ifs
      · exact ⟨_, rfl⟩
      · exact ⟨_, rfl⟩
    obtain ⟨after, hNext⟩ := hNext
    obtain ⟨last, hLast⟩ := ih (fun d hd => h d (List.mem_cons_of_mem c hd)) (index + 1) after
    refine ⟨last, ?_⟩
    rw [List.cons_append, List.length_cons, Cursor.skip, hNext, hLast]
    simp only [Cursor.mk.injEq, true_and, and_true]
    omega

variable {body rest : List Char}

/-- The characters of a comment and of its line feed in front of a text. -/
def commentOrigin (body rest : List Char) : Origin :=
  ⟨body.length + 2, 1, body.length + rest.length + 3⟩

theorem commented_length :
    ('#' :: (body ++ '\n' :: rest)).length = body.length + rest.length + 2 := by
  simp only [List.length_cons, List.length_append]
  omega

theorem lineBreak_comment (h : ∀ c ∈ body, isLineEnd c = false) :
    (((Cursor.start ('#' :: (body ++ '\n' :: rest))).skipWhile fun c =>
        c == ' ' || (false && c == '\t')).skipComment).lineBreak =
      some ('\n', (Cursor.start rest).moved (commentOrigin body rest)) := by
  have hBlank : (Cursor.start ('#' :: (body ++ '\n' :: rest))).skipWhile
      (fun c => c == ' ' || (false && c == '\t')) = Cursor.start ('#' :: (body ++ '\n' :: rest)) :=
    Cursor.span_of_not rfl
  have hRun : ('#' :: (body ++ '\n' :: rest)).takeWhile (!isLineEnd ·) = '#' :: body := by
    have hKept : ∀ c ∈ '#' :: body, (!isLineEnd c) = true := by
      intro c hc
      rcases List.mem_cons.mp hc with rfl | hc
      · rfl
      · rw [h c hc]
        rfl
    rw [← List.cons_append, List.takeWhile_append_of_pos hKept]
    simp [isLineEnd, isAnyBreak]
  obtain ⟨column, hSkip⟩ := Cursor.skip_run ('#' :: body)
    (fun c hc => (List.mem_cons.mp hc).elim (fun hc => hc ▸ rfl) (h c)) ('\n' :: rest) 0 0 0
  have hComment : (Cursor.start ('#' :: (body ++ '\n' :: rest))).skipComment =
      ⟨'\n' :: rest, 0 + ('#' :: body).length, 0, column⟩ := by
    rw [← hSkip]
    simp only [Cursor.skipComment, Cursor.skipWhile, Cursor.span, Cursor.start, hRun]
    rfl
  rw [hBlank, hComment]
  simp only [commentOrigin, Cursor.moved, Cursor.start, List.length_cons]
  have hEnd (index : Nat) : (Cursor.mk ('\n' :: rest) index 0 column).lineBreak =
      some ('\n', ⟨rest, index + 1, 1, 0⟩) := rfl
  rw [hEnd]
  simp only [Option.some.injEq, Prod.mk.injEq, Cursor.mk.injEq, true_and, and_true]
  omega

/-- Behind a comment, the lexer is where it starts on the text alone. -/
theorem skipToToken_comment (h : ∀ c ∈ body, isLineEnd c = false) (rest : List Char)
    (fuel : Nat) :
    Lexer.skipToToken (fuel + 1) (Lexer.start ('#' :: (body ++ '\n' :: rest))) =
      Lexer.skipToToken fuel ((Lexer.start rest).moved (commentOrigin body rest)) := by
  have hInFlow : (Lexer.start ('#' :: (body ++ '\n' :: rest))).inFlow = false := rfl
  have hCursor : (Lexer.start ('#' :: (body ++ '\n' :: rest))).cursor =
      Cursor.start ('#' :: (body ++ '\n' :: rest)) := rfl
  simp only [Lexer.skipToToken_succ, hInFlow, hCursor, lineBreak_comment h]
  simp only [Lexer.start, Lexer.moved, commented_length, commentOrigin]
  rfl

theorem step_comment (h : ∀ c ∈ body, isLineEnd c = false) (hRest : '\x00' ∉ rest) :
    (Lexer.start ('#' :: (body ++ '\n' :: rest))).step =
      ((Lexer.start rest).moved (commentOrigin body rest)).step := by
  have hStart (s : Lexer) (hs : s.candidates = []) : s.dropStale = some s := by
    cases s
    cases hs
    rfl
  have hFits (fuel : Nat) (hFuel : rest.length < fuel) :
      ((Lexer.start rest).moved (commentOrigin body rest)).cursor.Fits fuel := ⟨hRest, hFuel⟩
  have hSkip := skipToToken_comment h rest (body.length + rest.length + 2)
  rw [Lexer.skipToToken_fuel (hFits _ (by omega))
    (hFits (body.length + rest.length + 3) (by omega))] at hSkip
  rw [Lexer.step_eq, Lexer.step_eq, hStart _ rfl, hStart _ rfl]
  have hFuel : (Lexer.start ('#' :: (body ++ '\n' :: rest))).fuel =
      body.length + rest.length + 3 :=
    congrArg (· + 1) commented_length
  simp only [Option.bind_some, hFuel, hSkip]
  rfl

theorem run_comment (h : ∀ c ∈ body, isLineEnd c = false) (hRest : '\x00' ∉ rest) :
    (Lexer.start ('#' :: (body ++ '\n' :: rest))).run (body.length + rest.length + 4) =
      ((Lexer.start rest).run (rest.length + 2)).map
        (List.map (Token.moved (commentOrigin body rest))) := by
  have hOwn : (Lexer.start rest).cursor.Fits (rest.length + 1) := ⟨hRest, Nat.lt_succ_self _⟩
  have hOther : (Lexer.start rest).cursor.Fits (body.length + rest.length + 3) :=
    ⟨hRest, by show rest.length < _; omega⟩
  rw [← Lexer.run_moved (commentOrigin body rest) ⟨hOwn, hOther⟩ hOther hOwn, Lexer.run,
    step_comment h hRest]
  rfl

/-- A comment in front of a text is read past if its characters can be read, and else refused
together with the text. -/
theorem readValue_comment (h : ∀ c ∈ body, isAnyBreak c = false)
    (hMark : rest.head? ≠ some '\uFEFF') :
    readValue ('#' :: (body ++ '\n' :: rest)) =
      if body.all isPrintable then readValue rest else none := by
  have hAll : ('#' :: (body ++ '\n' :: rest)).all isPrintable =
      (body.all isPrintable && rest.all isPrintable) := by
    have hNumber : isPrintable '#' = true := by decide
    have hFeed : isPrintable '\n' = true := by decide
    rw [List.all_cons, List.all_append, List.all_cons, hNumber, hFeed]
    rfl
  unfold readValue tokens?
  rw [hAll]
  cases hBody : body.all isPrintable with
  | false => rfl
  | true =>
    have hEnds : ∀ c ∈ body, isLineEnd c = false := by
      intro c hc
      have hNul : (c == '\x00') = false := beq_eq_false_iff_ne.mpr fun hNul =>
        absurd (List.all_eq_true.mp hBody c hc) (hNul ▸ by decide)
      rw [isLineEnd, hNul, h c hc]
      rfl
    cases hPrintable : rest.all isPrintable with
    | false => rfl
    | true =>
      have hNul : '\x00' ∉ rest := fun hMem =>
        absurd (List.all_eq_true.mp hPrintable _ hMem) (by decide)
      have hFirst : ((Lexer.start rest).cursor.head == '\uFEFF') = false := by
        cases rest with
        | nil => rfl
        | cons c rest => exact beq_eq_false_iff_ne.mpr fun hc : c = '\uFEFF' => hMark (hc ▸ rfl)
      have hNumber : ((Lexer.start ('#' :: (body ++ '\n' :: rest))).cursor.head == '\uFEFF') =
          false := rfl
      simp only [hFirst, hNumber, Bool.and_self, if_true, Bool.false_eq_true, if_false,
        commented_length]
      rw [run_comment hEnds hNul]
      simp only [Option.bind_map, Function.comp_def, valueOfTokens_moved]

end BuildSync.Yaml
