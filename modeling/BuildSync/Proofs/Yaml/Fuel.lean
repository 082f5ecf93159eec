import BuildSync.Proofs.Yaml.Moved

/-!
# Fuel that suffices

A reader goes on in the text it was given, so that as much fuel as there are characters left is
enough, and more of it changes nothing.
-/

set_option autoImplicit false

namespace BuildSync.Yaml

namespace Cursor

/-- The cursor stands at the other one or behind it. -/
def Behind (q p : Cursor) : Prop := q.rest <:+ p.rest

/-- The cursor stands behind the other one, with a character at least in between. -/
def Past (q p : Cursor) : Prop := q.rest <:+ p.rest ∧ q.rest.length < p.rest.length

/-- The text left is one that can be read, and fewer than `fuel` characters long. -/
def Fits (fuel : Nat) (p : Cursor) : Prop := '\x00' ∉ p.rest ∧ p.rest.length < fuel

variable {p q r : Cursor} {fuel : Nat}

theorem Behind.refl (p : Cursor) : p.Behind p := List.suffix_refl p.rest

theorem Behind.trans (h : r.Behind q) (h' : q.Behind p) : r.Behind p := List.IsSuffix.trans h h'

theorem Past.behind (h : q.Past p) : q.Behind p := h.1

theorem Past.of_behind (h : r.Behind q) (h' : q.Past p) : r.Past p :=
  ⟨h.trans h'.1, Nat.lt_of_le_of_lt h.length_le h'.2⟩

theorem Behind.past (h : r.Past q) (h' : q.Behind p) : r.Past p :=
  ⟨h.1.trans h', Nat.lt_of_lt_of_le h.2 h'.length_le⟩

theorem Fits.of_behind (h : p.Fits fuel) (hq : q.Behind p) : q.Fits fuel :=
  ⟨fun hNul => h.1 (hq.mem hNul), Nat.lt_of_le_of_lt hq.length_le h.2⟩

theorem Fits.of_past (h : p.Fits (fuel + 1)) (hq : q.Past p) : q.Fits fuel :=
  ⟨fun hNul => h.1 (hq.1.mem hNul), Nat.lt_of_lt_of_le hq.2 (Nat.le_of_lt_succ h.2)⟩

theorem not_fits_zero : ¬p.Fits 0 := fun h => Nat.not_lt_zero _ h.2

@[simp] theorem rest_next : p.next.rest = p.rest.tail := by
  unfold next
  split
  · rename_i h
    rw [h]
    rfl
  · rename_i c rest h
    rw [h]
    split_ifs <;> rfl

@[simp] theorem rest_skip (n : Nat) : (p.skip n).rest = p.rest.drop n := by
  induction n generalizing p with
  | zero => rfl
  | succ n ih => rw [skip, ih, rest_next, List.drop_tail]

theorem head_eq (p : Cursor) : p.head = p.rest.headD '\x00' := rfl

theorem atEnd_iff : p.atEnd ↔ p.rest = [] := List.isEmpty_iff

/-- A character other than NUL is one of the text. -/
theorem rest_ne_nil (h : p.head ≠ '\x00') : p.rest ≠ [] := by
  intro hNil
  exact h (by rw [head_eq, hNil]; rfl)

theorem rest_ne_nil_of_beq {c : Char} (h : (p.head == c) = true) (hc : c ≠ '\x00') :
    p.rest ≠ [] := rest_ne_nil (beq_iff_eq.mp h ▸ hc)

/-- Only behind the end of a text that can be read there is a NUL. -/
theorem head_ne_nul (h : p.Fits fuel) (hRest : p.rest ≠ []) : p.head ≠ '\x00' := by
  obtain ⟨c, rest, hCons⟩ := List.exists_cons_of_ne_nil hRest
  rw [head_eq, hCons]
  rintro rfl
  exact h.1 (hCons ▸ List.mem_cons_self)

theorem behind_skip (n : Nat) : (p.skip n).Behind p := by
  unfold Behind
  rw [rest_skip]
  exact List.drop_suffix n p.rest

theorem behind_next : p.next.Behind p := behind_skip 1

theorem past_skip (n : Nat) (h : p.rest ≠ []) : (p.skip (n + 1)).Past p := by
  refine ⟨behind_skip _, ?_⟩
  have hLength := List.length_pos_iff.mpr h
  rw [rest_skip, List.length_drop]
  omega

theorem past_next (h : p.rest ≠ []) : p.next.Past p := past_skip 0 h

theorem behind_span (inClass : Char → Bool) : (p.span inClass).2.Behind p := behind_skip _

theorem past_span {inClass : Char → Bool} (hRest : p.rest ≠ []) (h : inClass p.head) :
    (p.span inClass).2.Past p := by
  obtain ⟨c, rest, hCons⟩ := List.exists_cons_of_ne_nil hRest
  have hHead : inClass c := by rwa [head_eq, hCons] at h
  have hRun : (p.rest.takeWhile inClass).length = (rest.takeWhile inClass).length + 1 := by
    rw [hCons, List.takeWhile_cons_of_pos hHead, List.length_cons]
  simp only [span, hRun]
  exact past_skip _ hRest

theorem span_of_not {inClass : Char → Bool} (h : inClass p.head = false) :
    (p.span inClass).2 = p := by
  have hRun : p.rest.takeWhile inClass = [] := by
    cases hRest : p.rest with
    | nil => rfl
    | cons c rest =>
      rw [head_eq, hRest] at h
      exact List.takeWhile_cons_of_neg (Bool.not_eq_true _ ▸ h)
  simp only [span, hRun]
  rfl

theorem behind_skipWhile (inClass : Char → Bool) : (p.skipWhile inClass).Behind p :=
  behind_span inClass

theorem behind_skipComment : p.skipComment.Behind p := by
  unfold skipComment
  split_ifs
  · exact behind_skipWhile _
  · exact Behind.refl p

theorem past_lineBreak {found : Char × Cursor} (h : p.lineBreak = some found) :
    found.2.Past p := by
  have hRest : p.rest ≠ [] := by
    intro hNil
    have hHead : p.head = '\x00' := by rw [head_eq, hNil]; rfl
    simp [lineBreak, hHead] at h
  unfold lineBreak at h
  simp only at h
  split_ifs at h <;> cases h
  · exact past_skip 1 hRest
  · exact past_next hRest
  · exact past_next hRest

/-- A line ends in a break or with the text. -/
theorem lineBreak_eq_none (h : p.Fits fuel) (hBreak : p.lineBreak = none) :
    p.rest = [] ∨ isLineEnd p.head = false := by
  rcases Classical.em (p.rest = []) with hNil | hRest
  · exact Or.inl hNil
  refine Or.inr ?_
  have hNul : (p.head == '\x00') = false := beq_eq_false_iff_ne.mpr (head_ne_nul h hRest)
  unfold lineBreak at hBreak
  simp only at hBreak
  split_ifs at hBreak with _ hFeed hSeparator
  simp only [Bool.or_eq_true, not_or, Bool.not_eq_true] at hFeed hSeparator
  simp only [isLineEnd, isAnyBreak, hNul, hFeed, hSeparator, Bool.or_false]

end Cursor

namespace ScalarText

open Cursor

variable {p : Cursor} {n m : Nat}

theorem behind_quotedBreaks {fuel : Nat} {found : List Char} {read : List Char × Cursor}
    (h : quotedBreaks fuel p found = some read) : read.2.Behind p := by
  induction fuel generalizing p found with
  | zero => cases h
  | succ fuel ih =>
    simp only [quotedBreaks] at h
    split_ifs at h
    cases hBreak : (p.skipWhile fun c => c == ' ' || c == '\t').lineBreak with
    | none =>
      simp only [hBreak, Option.some.injEq] at h
      rw [← h]
      exact behind_skipWhile _
    | some next =>
      simp only [hBreak] at h
      exact (ih h).trans ((past_lineBreak hBreak).behind.trans (behind_skipWhile _))

theorem quotedBreaks_fuel (hn : p.Fits n) (hm : p.Fits m) (found : List Char) :
    quotedBreaks n p found = quotedBreaks m p found := by
  induction n generalizing m p found with
  | zero => exact absurd hn not_fits_zero
  | succ n ih =>
    cases m with
    | zero => exact absurd hm not_fits_zero
    | succ m =>
      simp only [quotedBreaks]
      cases hBreak : (p.skipWhile fun c => c == ' ' || c == '\t').lineBreak with
      | none => rfl
      | some next =>
        have hPast : next.2.Past p := (behind_skipWhile _).past (past_lineBreak hBreak)
        simp only [ih (hn.of_past hPast) (hm.of_past hPast)]

/-- At a blank or a line break in quoted text, a character is read at least. -/
theorem past_quotedSpaces {fuel : Nat} {read : List Char × Cursor} (hp : p.Fits m)
    (h : quotedSpaces fuel p = some read) (hHead : endsWord p.head) : read.2.Past p := by
  simp only [quotedSpaces] at h
  have hBehind : (p.span fun c => c == ' ' || c == '\t').2.Behind p := behind_span _
  split_ifs at h with hEnd
  cases hBreak : (p.span fun c => c == ' ' || c == '\t').2.lineBreak with
  | some next =>
    simp only [hBreak, Option.bind_eq_bind, Option.bind_eq_some_iff, Option.some.injEq] at h
    obtain ⟨breaks, hBreaks, rfl⟩ := h
    have hRead : breaks.2.Behind next.2 := behind_quotedBreaks hBreaks
    exact hBehind.past (Past.of_behind hRead (past_lineBreak hBreak))
  | none =>
    simp only [hBreak, Option.some.injEq] at h
    subst h
    have hRest : p.rest ≠ [] := by
      intro hNil
      exact hEnd (atEnd_iff.mpr (List.suffix_nil.mp (hNil ▸ hBehind)))
    cases hBlank : p.head == ' ' || p.head == '\t' with
    | true => exact past_span hRest hBlank
    | false =>
      rw [span_of_not hBlank] at hBreak
      have hLineEnd : isLineEnd p.head := by simpa [endsWord, hBlank] using hHead
      rcases lineBreak_eq_none hp hBreak with hNil | hGoesOn
      · exact absurd hNil hRest
      · exact absurd hLineEnd (Bool.not_eq_true _ ▸ hGoesOn)

theorem quotedSpaces_fuel (hn : p.Fits (n + 1)) (hm : p.Fits (m + 1)) :
    quotedSpaces n p = quotedSpaces m p := by
  simp only [quotedSpaces]
  cases hBreak : (p.span fun c => c == ' ' || c == '\t').2.lineBreak with
  | none => rfl
  | some next =>
    have hPast : next.2.Past p := (behind_span _).past (past_lineBreak hBreak)
    simp only [quotedBreaks_fuel (hn.of_past hPast) (hm.of_past hPast)]

theorem endsWord_of_isQuotedStop {c : Char} (h : isQuotedStop c) (hSingle : c ≠ '\'')
    (hDouble : c ≠ '"') (hEscape : c ≠ '\\') : endsWord c := by
  have hSingle := beq_eq_false_iff_ne.mpr hSingle
  have hDouble := beq_eq_false_iff_ne.mpr hDouble
  have hEscape := beq_eq_false_iff_ne.mpr hEscape
  simp only [isQuotedStop, hSingle, hDouble, hEscape, Bool.or_false] at h
  exact h

/-- A run of quoted text is not empty. -/
theorem past_quotedRun (h : ¬isQuotedStop p.head) : (p.span (!isQuotedStop ·)).2.Past p := by
  have hRest : p.rest ≠ [] := rest_ne_nil fun hNul => h (hNul ▸ rfl)
  exact past_span hRest (by simpa using h)

theorem single_fuel (hn : p.Fits n) (hm : p.Fits m) (done : List Char) :
    single n p done = single m p done := by
  induction n generalizing m p done with
  | zero => exact absurd hn not_fits_zero
  | succ n ih =>
    cases m with
    | zero => exact absurd hm not_fits_zero
    | succ m =>
      have hStep {q : Cursor} (hq : q.Past p) (done : List Char) :
          single n q done = single m q done := ih (hn.of_past hq) (hm.of_past hq) done
      simp only [single]
      split_ifs with hQuote hTwo hMark hStop
      · exact hStep (past_skip 1 (rest_ne_nil_of_beq hQuote (by decide))) _
      · rfl
      · rcases Bool.or_eq_true_iff.mp hMark with hMark | hMark <;>
          exact hStep (past_next (rest_ne_nil_of_beq hMark (by decide))) _
      · rw [quotedSpaces_fuel hn hm]
        have hWord : endsWord p.head := by
          simp only [Bool.or_eq_true, beq_iff_eq, not_or] at hQuote hMark
          exact endsWord_of_isQuotedStop hStop hQuote hMark.1 hMark.2
        cases hSpaces : quotedSpaces m p with
        | none => rfl
        | some spaces => exact hStep (past_quotedSpaces hn hSpaces hWord) _
      · exact hStep (past_quotedRun hStop) _

theorem escaped_fuel (hn : p.Fits n) (hm : p.Fits m) : escaped n p = escaped m p := by
  unfold escaped
  cases hBreak : p.lineBreak with
  | none => rfl
  | some found =>
    have hBehind : found.2.Behind p := (past_lineBreak hBreak).behind
    simp only [Option.bind_some, quotedBreaks_fuel (hn.of_behind hBehind) (hm.of_behind hBehind)]

theorem behind_escaped {fuel : Nat} {read : List Nat × Cursor} (h : escaped fuel p = some read) :
    read.2.Behind p := by
  unfold escaped at h
  cases hLetter : letterEscapes.lookup p.head with
  | some d =>
    rw [hLetter] at h
    cases h
    exact behind_next
  | none =>
    rw [hLetter] at h
    cases hWidth : hexWidth p.head with
    | some width =>
      rw [hWidth] at h
      obtain ⟨n, _, rfl⟩ := Option.map_eq_some_iff.mp h
      exact behind_skip _
    | none =>
      rw [hWidth] at h
      obtain ⟨found, hBreak, hRead⟩ := Option.bind_eq_some_iff.mp h
      obtain ⟨breaks, hBreaks, rfl⟩ := Option.map_eq_some_iff.mp hRead
      exact Behind.trans (behind_quotedBreaks hBreaks) (past_lineBreak hBreak).behind

theorem double_fuel (hn : p.Fits n) (hm : p.Fits m) (done : List Nat) :
    double n p done = double m p done := by
  induction n generalizing m p done with
  | zero => exact absurd hn not_fits_zero
  | succ n ih =>
    cases m with
    | zero => exact absurd hm not_fits_zero
    | succ m =>
      have hStep {q : Cursor} (hq : q.Past p) (done : List Nat) :
          double n q done = double m q done := ih (hn.of_past hq) (hm.of_past hq) done
      simp only [double_succ]
      split_ifs with hDouble hSingle hEscape hStop
      · rfl
      · exact hStep (past_next (rest_ne_nil_of_beq hSingle (by decide))) _
      · have hNext : p.next.Past p := past_next (rest_ne_nil_of_beq hEscape (by decide))
        rw [escaped_fuel (hn.of_past hNext) (hm.of_past hNext)]
        cases hEscaped : escaped m p.next with
        | none => rfl
        | some read => exact hStep (Past.of_behind (behind_escaped hEscaped) hNext) _
      · rw [quotedSpaces_fuel hn hm]
        -- what stops a run and is no mark is a blank or the end of a line, and is read past
        have hWord : endsWord p.head := by
          simp only [beq_iff_eq] at hDouble hSingle hEscape
          exact endsWord_of_isQuotedStop hStop hSingle hDouble hEscape
        cases hSpaces : quotedSpaces m p with
        | none => rfl
        | some spaces => exact hStep (past_quotedSpaces hn hSpaces hWord) _
      · exact hStep (past_quotedRun hStop) _

theorem behind_quotedSpaces {fuel : Nat} {read : List Char × Cursor}
    (h : quotedSpaces fuel p = some read) : read.2.Behind p := by
  simp only [quotedSpaces] at h
  split_ifs at h
  cases hBreak : (p.span fun c => c == ' ' || c == '\t').2.lineBreak with
  | none =>
    simp only [hBreak, Option.some.injEq] at h
    rw [← h]
    exact behind_span _
  | some next =>
    simp only [hBreak, Option.bind_eq_bind, Option.bind_eq_some_iff, Option.some.injEq] at h
    obtain ⟨breaks, hBreaks, rfl⟩ := h
    have hRead : breaks.2.Behind next.2 := behind_quotedBreaks hBreaks
    exact (hRead.trans (past_lineBreak hBreak).behind).trans (behind_span _)

theorem behind_single {fuel : Nat} {done : List Char} {read : List Char × Cursor}
    (h : single fuel p done = some read) : read.2.Behind p := by
  induction fuel generalizing p done with
  | zero => cases h
  | succ fuel ih =>
    simp only [single] at h
    split_ifs at h
    · exact (ih h).trans (behind_skip 2)
    · cases h
      exact behind_next
    · exact (ih h).trans behind_next
    · obtain ⟨spaces, hSpaces, hRead⟩ := Option.bind_eq_some_iff.mp h
      exact (ih hRead).trans (behind_quotedSpaces hSpaces)
    · exact (ih h).trans (behind_span _)

theorem behind_double {fuel : Nat} {done : List Nat} {read : List Nat × Cursor}
    (h : double fuel p done = some read) : read.2.Behind p := by
  induction fuel generalizing p done with
  | zero => cases h
  | succ fuel ih =>
    rw [double_succ] at h
    split_ifs at h
    · cases h
      exact behind_next
    · exact (ih h).trans behind_next
    · obtain ⟨read, hEscaped, hRead⟩ := Option.bind_eq_some_iff.mp h
      exact ((ih hRead).trans (behind_escaped hEscaped)).trans behind_next
    · obtain ⟨spaces, hSpaces, hRead⟩ := Option.bind_eq_some_iff.mp h
      exact (ih hRead).trans (behind_quotedSpaces hSpaces)
    · exact (ih h).trans (behind_span _)

theorem behind_plainBreaks (fuel : Nat) (p : Cursor) (found : List Char) :
    (plainBreaks fuel p found).2.Behind p := by
  induction fuel generalizing p found with
  | zero => exact Behind.refl p
  | succ fuel ih =>
    simp only [plainBreaks]
    split_ifs
    · exact (ih _ _).trans behind_next
    · cases hBreak : p.lineBreak with
      | none => exact Behind.refl p
      | some next =>
        dsimp only
        split_ifs
        · exact (past_lineBreak hBreak).behind
        · exact (ih _ _).trans (past_lineBreak hBreak).behind

theorem plainBreaks_fuel (hn : p.Fits n) (hm : p.Fits m) (found : List Char) :
    plainBreaks n p found = plainBreaks m p found := by
  induction n generalizing m p found with
  | zero => exact absurd hn not_fits_zero
  | succ n ih =>
    cases m with
    | zero => exact absurd hm not_fits_zero
    | succ m =>
      simp only [plainBreaks]
      split_ifs with hBlank
      · have hPast : p.next.Past p := past_next (rest_ne_nil_of_beq hBlank (by decide))
        exact ih (hn.of_past hPast) (hm.of_past hPast) _
      · cases hBreak : p.lineBreak with
        | none => rfl
        | some next =>
          have hPast := past_lineBreak hBreak
          simp only [ih (hn.of_past hPast) (hm.of_past hPast)]

theorem behind_plainSpaces (fuel : Nat) (p : Cursor) : (plainSpaces fuel p).2.2.Behind p := by
  simp only [plainSpaces]
  cases hBreak : (p.span (· == ' ')).2.lineBreak with
  | none => exact behind_span _
  | some next =>
    have hNext : next.2.Behind p := (past_lineBreak hBreak).behind.trans (behind_span _)
    have hBreaks := (behind_plainBreaks fuel next.2 []).trans hNext
    dsimp only
    split_ifs
    · exact hNext
    · generalize plainBreaks fuel next.2 [] = read at hBreaks
      obtain ⟨_ | breaks, q⟩ := read <;> exact hBreaks

theorem plainSpaces_fuel (hn : p.Fits n) (hm : p.Fits m) :
    plainSpaces n p = plainSpaces m p := by
  simp only [plainSpaces]
  cases hBreak : (p.span (· == ' ')).2.lineBreak with
  | none => rfl
  | some next =>
    have hNext : next.2.Behind p := (past_lineBreak hBreak).behind.trans (behind_span _)
    simp only [plainBreaks_fuel (hn.of_behind hNext) (hm.of_behind hNext)]

/-- A run of plain text that is not empty moves the cursor. -/
theorem past_plainRun {rules : PlainRules} (h : ¬(plainRun rules p.rest).isEmpty) :
    (p.skip (plainRun rules p.rest).length).Past p := by
  have hRest : p.rest ≠ [] := by
    intro hNil
    exact h (by rw [hNil]; rfl)
  obtain ⟨c, run, hRun⟩ := List.exists_cons_of_ne_nil (mt List.isEmpty_iff.mpr h)
  rw [hRun]
  exact past_skip run.length hRest

theorem behind_plain (rules : PlainRules) (indent fuel : Nat) (p : Cursor)
    (done spaces : List Char) (broke : Bool) :
    (plain rules indent fuel p done spaces broke).cursor.Behind p := by
  induction fuel generalizing p done spaces broke with
  | zero => exact Behind.refl p
  | succ fuel ih =>
    simp only [plain]
    have hSpaces := (behind_plainSpaces fuel (p.skip (plainRun rules p.rest).length)).trans
      (behind_skip _)
    split_ifs
    · exact Behind.refl p
    · exact Behind.refl p
    · exact hSpaces
    · exact (ih _ _ _ _).trans hSpaces

theorem plain_fuel (rules : PlainRules) (indent : Nat) (hn : p.Fits n) (hm : p.Fits m)
    (done spaces : List Char) (broke : Bool) :
    plain rules indent n p done spaces broke = plain rules indent m p done spaces broke := by
  induction n generalizing m p done spaces broke with
  | zero => exact absurd hn not_fits_zero
  | succ n ih =>
    cases m with
    | zero => exact absurd hm not_fits_zero
    | succ m =>
      simp only [plain]
      split
      · rfl
      split
      · rfl
      rename_i hRun
      have hPast : (p.skip (plainRun rules p.rest).length).Past p := past_plainRun hRun
      have hSpaces := behind_plainSpaces m (p.skip (plainRun rules p.rest).length)
      have hNext := Past.of_behind hSpaces hPast
      rw [plainSpaces_fuel (hn.of_past hPast) (hm.of_past hPast)]
      split
      · rfl
      · exact ih (hn.of_past hNext) (hm.of_past hNext) _ _ _

theorem behind_increment {read : Option Nat × Cursor} (h : increment p = some read) :
    read.2.Behind p := by
  simp only [increment] at h
  split_ifs at h
  · cases h
    exact behind_next
  · cases h
    exact Behind.refl p

theorem behind_headerMarks {read : BlockHeader × Cursor} (h : headerMarks p = some read) :
    read.2.Behind p := by
  unfold headerMarks at h
  cases hChomping : chomping? p.head with
  | some chomping =>
    rw [hChomping] at h
    obtain ⟨increment, hIncrement, hRead⟩ := Option.bind_eq_some_iff.mp h
    cases hRead
    exact (behind_increment hIncrement).trans behind_next
  | none =>
    rw [hChomping] at h
    obtain ⟨⟨n, q⟩, hIncrement, hRead⟩ := Option.bind_eq_some_iff.mp h
    have hBehind : q.Behind p := behind_increment hIncrement
    dsimp only at hRead
    split at hRead
    · cases hRead
      exact behind_next.trans hBehind
    · cases hRead
      exact hBehind

theorem behind_endDirective {q : Cursor} (h : Lexer.endDirective p = some q) : q.Behind p := by
  have hLine : (p.skipWhile (· == ' ')).skipComment.Behind p :=
    behind_skipComment.trans (behind_skipWhile _)
  simp only [Lexer.endDirective_eq] at h
  split_ifs at h
  cases hBreak : (p.skipWhile (· == ' ')).skipComment.lineBreak with
  | none =>
    rw [hBreak] at h
    cases h
    exact hLine
  | some next =>
    rw [hBreak] at h
    cases h
    exact (past_lineBreak hBreak).behind.trans hLine

theorem behind_blockHeader {read : BlockHeader × Cursor} (h : blockHeader p = some read) :
    read.2.Behind p := by
  rw [blockHeader_eq] at h
  obtain ⟨marks, hMarks, hRead⟩ := Option.bind_eq_some_iff.mp h
  unfold headerEnd at hRead
  split_ifs at hRead
  obtain ⟨q, hEnd, rfl⟩ := Option.map_eq_some_iff.mp hRead
  exact (behind_endDirective hEnd).trans (behind_headerMarks hMarks)

theorem behind_blockIndentation (fuel : Nat) (p : Cursor) (found : List Char) (widest : Nat)
    (first : Option Nat) : (blockIndentation fuel p found widest first).2.2.2.Behind p := by
  induction fuel generalizing p found widest first with
  | zero => exact Behind.refl p
  | succ fuel ih =>
    simp only [blockIndentation]
    split_ifs
    · exact (ih _ _ _ _).trans behind_next
    · cases hBreak : p.lineBreak with
      | none => exact Behind.refl p
      | some next => exact (ih _ _ _ _).trans (past_lineBreak hBreak).behind

theorem blockIndentation_fuel (hn : p.Fits n) (hm : p.Fits m) (found : List Char) (widest : Nat)
    (first : Option Nat) :
    blockIndentation n p found widest first = blockIndentation m p found widest first := by
  induction n generalizing m p found widest first with
  | zero => exact absurd hn not_fits_zero
  | succ n ih =>
    cases m with
    | zero => exact absurd hm not_fits_zero
    | succ m =>
      simp only [blockIndentation]
      split_ifs with hBlank
      · have hPast : p.next.Past p := past_next (rest_ne_nil_of_beq hBlank (by decide))
        exact ih (hn.of_past hPast) (hm.of_past hPast) _ _ _
      · cases hBreak : p.lineBreak with
        | none => rfl
        | some next =>
          have hPast := past_lineBreak hBreak
          exact ih (hn.of_past hPast) (hm.of_past hPast) _ _ _

theorem behind_skipIndent (indent fuel : Nat) (p : Cursor) :
    (skipIndent indent fuel p).Behind p := by
  induction fuel generalizing p with
  | zero => exact Behind.refl p
  | succ fuel ih =>
    simp only [skipIndent]
    split_ifs
    · exact (ih _).trans behind_next
    · exact Behind.refl p

theorem skipIndent_fuel (indent : Nat) (hn : p.Fits (n + 1)) (hm : p.Fits (m + 1)) :
    skipIndent indent n p = skipIndent indent m p := by
  have hStays {q : Cursor} {k : Nat} (h : q.Fits 1) : skipIndent indent k q = q := by
    cases k with
    | zero => rfl
    | succ k =>
      have hHead : q.head = '\x00' := by
        rw [head_eq, List.length_eq_zero_iff.mp (Nat.lt_one_iff.mp h.2)]
        rfl
      simp [skipIndent, hHead]
  induction n generalizing m p with
  | zero => rw [hStays hn, hStays hn]
  | succ n ih =>
    cases m with
    | zero => rw [hStays hm, hStays hm]
    | succ m =>
      simp only [skipIndent]
      split
      · rename_i hBlank
        have hPast : p.next.Past p :=
          past_next (rest_ne_nil_of_beq (Bool.and_eq_true_iff.mp hBlank).2 (by decide))
        exact ih (hn.of_past hPast) (hm.of_past hPast)
      · rfl

theorem behind_blockBreaks (indent fuel : Nat) (p : Cursor) (found : List Char) :
    (blockBreaks indent fuel p found).2.Behind p := by
  induction fuel generalizing p found with
  | zero => exact Behind.refl p
  | succ fuel ih =>
    simp only [blockBreaks]
    cases hBreak : (skipIndent indent fuel p).lineBreak with
    | none => exact behind_skipIndent indent fuel p
    | some next =>
      exact (ih _ _).trans ((past_lineBreak hBreak).behind.trans (behind_skipIndent indent fuel p))

theorem blockBreaks_fuel (indent : Nat) (hn : p.Fits n) (hm : p.Fits m) (found : List Char) :
    blockBreaks indent n p found = blockBreaks indent m p found := by
  induction n generalizing m p found with
  | zero => exact absurd hn not_fits_zero
  | succ n ih =>
    cases m with
    | zero => exact absurd hm not_fits_zero
    | succ m =>
      simp only [blockBreaks, skipIndent_fuel indent hn hm]
      cases hBreak : (skipIndent indent m p).lineBreak with
      | none => rfl
      | some next =>
        have hPast : next.2.Past p := (behind_skipIndent indent m p).past (past_lineBreak hBreak)
        exact ih (hn.of_past hPast) (hm.of_past hPast) _

theorem behind_lineEnd (p : Cursor) : (lineEnd p).2.Behind p := by
  unfold lineEnd
  cases hBreak : p.lineBreak with
  | none => exact Behind.refl p
  | some next => exact (past_lineBreak hBreak).behind

theorem behind_blockLine (folded stopsAtMark : Bool) (indent fuel : Nat) (s : BlockState) :
    (blockLine folded stopsAtMark indent fuel s).1.cursor.Behind s.cursor := by
  have hLine : (lineEnd (s.cursor.span (!isLineEnd ·)).2).2.Behind s.cursor :=
    (behind_lineEnd _).trans (behind_span _)
  have hBreaks := (behind_blockBreaks indent fuel _ []).trans hLine
  simp only [blockLine]
  split_ifs <;> exact hBreaks

/-- A line of a block is not empty together with its end. -/
theorem past_line (hp : p.Fits n) (h : p.atEnd = false) :
    (lineEnd (p.span (!isLineEnd ·)).2).2.Past p := by
  have hRest : p.rest ≠ [] := fun hNil => by simp [atEnd_iff.mpr hNil] at h
  cases hLine : isLineEnd p.head with
  | false => exact Past.of_behind (behind_lineEnd _) (past_span hRest (by rw [hLine]; rfl))
  | true =>
    rw [span_of_not (by rw [hLine]; rfl), lineEnd]
    cases hBreak : p.lineBreak with
    | none =>
      rcases lineBreak_eq_none hp hBreak with hNil | hGoesOn
      · exact absurd hNil hRest
      · exact absurd (hLine.symm.trans hGoesOn) (by decide)
    | some next => exact past_lineBreak hBreak

theorem blockLine_fuel (folded stopsAtMark : Bool) (indent : Nat) {s : BlockState}
    (hn : s.cursor.Fits (n + 1)) (hm : s.cursor.Fits (m + 1)) (h : s.cursor.atEnd = false) :
    blockLine folded stopsAtMark indent n s = blockLine folded stopsAtMark indent m s := by
  have hLine := past_line hn h
  simp only [blockLine, blockBreaks_fuel indent (hn.of_past hLine) (hm.of_past hLine)]

theorem past_blockLine (folded stopsAtMark : Bool) (indent fuel : Nat) {s : BlockState}
    (hp : s.cursor.Fits n) (h : s.cursor.atEnd = false) :
    (blockLine folded stopsAtMark indent fuel s).1.cursor.Past s.cursor := by
  have hBreaks := Past.of_behind (behind_blockBreaks indent fuel _ []) (past_line hp h)
  simp only [blockLine]
  split_ifs <;> exact hBreaks

theorem behind_blockLines (folded stopsAtMark : Bool) (indent fuel : Nat) (s : BlockState) :
    (blockLines folded stopsAtMark indent fuel s).cursor.Behind s.cursor := by
  induction fuel generalizing s with
  | zero => exact Behind.refl _
  | succ fuel ih =>
    have hLine := behind_blockLine folded stopsAtMark indent fuel s
    simp only [blockLines_succ]
    split_ifs
    · exact Behind.refl _
    · exact (ih _).trans hLine
    · exact hLine

theorem blockLines_fuel (folded stopsAtMark : Bool) (indent : Nat) {s : BlockState}
    (hn : s.cursor.Fits n) (hm : s.cursor.Fits m) :
    blockLines folded stopsAtMark indent n s = blockLines folded stopsAtMark indent m s := by
  induction n generalizing m s with
  | zero => exact absurd hn not_fits_zero
  | succ n ih =>
    cases m with
    | zero => exact absurd hm not_fits_zero
    | succ m =>
      simp only [blockLines_succ]
      split
      · rfl
      rename_i hGoesOn
      have hEnd : s.cursor.atEnd = false := by simp_all
      rw [blockLine_fuel folded stopsAtMark indent hn hm hEnd]
      have hPast := past_blockLine folded stopsAtMark indent m hm hEnd
      split
      · exact ih (hn.of_past hPast) (hm.of_past hPast)
      · rfl

theorem behind_blockIndent {increment : Option Nat} {minimum fuel : Nat}
    {read : List Char × Nat × Cursor} (h : blockIndent increment minimum fuel p = some read) :
    read.2.2.Behind p := by
  cases increment with
  | none =>
    have hBehind := behind_blockIndentation fuel p [] 0 none
    simp only [blockIndent] at h
    generalize blockIndentation fuel p [] 0 none = found at h hBehind
    rcases found with ⟨breaks, widest, _ | n, q⟩
    · cases h
      exact hBehind
    · dsimp only at h
      split_ifs at h
      cases h
      exact hBehind
  | some n =>
    cases h
    exact behind_blockBreaks _ fuel p []

theorem blockIndent_fuel (hn : p.Fits n) (hm : p.Fits m) (increment : Option Nat) (minimum : Nat) :
    blockIndent increment minimum n p = blockIndent increment minimum m p := by
  simp only [blockIndent, blockIndentation_fuel hn hm, blockBreaks_fuel _ hn hm]

theorem behind_block {folded : Bool} {minimum fuel : Nat} {read : List Char × Cursor}
    (h : block folded minimum fuel p = some read) : read.2.Behind p := by
  rw [block_eq] at h
  obtain ⟨header, hHeader, h⟩ := Option.bind_eq_some_iff.mp h
  obtain ⟨indent, hIndent, rfl⟩ := Option.map_eq_some_iff.mp h
  exact (behind_blockLines _ _ _ _ _).trans
    ((behind_blockIndent hIndent).trans (behind_blockHeader hHeader))

theorem block_fuel (hn : p.Fits n) (hm : p.Fits m) (folded : Bool) (minimum : Nat) :
    block folded minimum n p = block folded minimum m p := by
  rw [block_eq, block_eq]
  cases hHeader : blockHeader p with
  | none => rfl
  | some header =>
    have hHeader : header.2.Behind p := behind_blockHeader hHeader
    simp only [Option.bind_some]
    rw [blockIndent_fuel (hn.of_behind hHeader) (hm.of_behind hHeader)]
    cases hIndent : blockIndent header.1.increment minimum m header.2 with
    | none => rfl
    | some indent =>
      have hLines : indent.2.2.Behind p := (behind_blockIndent hIndent).trans hHeader
      have hEq (s : BlockState) (hs : s.cursor = indent.2.2) :
          blockLines folded (minimum == 0) indent.2.1 n s =
            blockLines folded (minimum == 0) indent.2.1 m s :=
        blockLines_fuel _ _ _ (hs ▸ hn.of_behind hLines) (hs ▸ hm.of_behind hLines)
      simp only [Option.map_some]
      rw [hEq ⟨[], [], indent.1, indent.2.2⟩ rfl]

end ScalarText

end BuildSync.Yaml
