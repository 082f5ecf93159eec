import BuildSync.Proofs.Yaml.MovedTokens

/-!
# Progress of the lexer

A step reads a character at least or ends the text, so that a lexer that runs as often as there are
characters reads all of them.
-/

set_option autoImplicit false

namespace BuildSync.Yaml

namespace Lexer

open Cursor

section

variable {p q : Cursor}

theorem behind_number {read : Nat × Cursor} (h : number p = some read) : read.2.Behind p := by
  simp only [number] at h
  split_ifs at h
  cases h
  exact behind_span _

/-- A tag handle starts with an exclamation mark. -/
theorem behind_tagHandle {read : String × Cursor} (h : tagHandle p = some read) :
    read.2.Behind p.next := by
  simp only [tagHandle] at h
  split_ifs at h
  · cases h
    exact Behind.refl _
  · cases h
    exact behind_next.trans (behind_span _)

theorem behind_uriEscapes {fuel : Nat} {done : List UInt8} {read : List UInt8 × Cursor}
    (h : uriEscapes fuel p done = some read) : read.2.Behind p := by
  induction fuel generalizing p done with
  | zero =>
    cases h
    exact Behind.refl p
  | succ fuel ih =>
    simp only [uriEscapes] at h
    split_ifs at h
    · obtain ⟨high, _, h⟩ := Option.bind_eq_some_iff.mp h
      obtain ⟨low, _, h⟩ := Option.bind_eq_some_iff.mp h
      exact (ih h).trans (behind_skip 3)
    · cases h
      exact Behind.refl p

theorem behind_uriChars {oldRules : Bool} {fuel : Nat} {done : List Char}
    {read : List Char × Cursor} (h : uriChars oldRules fuel p done = some read) :
    read.2.Behind p := by
  induction fuel generalizing p done with
  | zero =>
    cases h
    exact Behind.refl p
  | succ fuel ih =>
    simp only [uriChars] at h
    split_ifs at h
    · obtain ⟨bytes, hBytes, h⟩ := Option.bind_eq_some_iff.mp h
      obtain ⟨text, _, h⟩ := Option.bind_eq_some_iff.mp h
      exact (ih h).trans (behind_uriEscapes hBytes)
    · exact (ih h).trans behind_next
    · cases h
      exact Behind.refl p

theorem behind_tagUri {oldRules : Bool} {read : String × Cursor}
    (h : tagUri oldRules p = some read) : read.2.Behind p := by
  obtain ⟨⟨chars, q⟩, hChars, h⟩ := Option.bind_eq_some_iff.mp h
  dsimp only at h
  split_ifs at h
  cases h
  have hBehind : q.Behind p := behind_uriChars hChars
  exact hBehind

theorem behind_tagBehind {oldRules : Bool} {short : String} {read : WrittenTag × Cursor}
    (h : tagBehind oldRules short p = some read) : read.2.Behind p.next := by
  simp only [tagBehind] at h
  split_ifs at h
  · obtain ⟨⟨suffix, q⟩, hSuffix, h⟩ := Option.bind_eq_some_iff.mp h
    dsimp only at h
    split_ifs at h
    cases h
    have hSuffix : q.Behind (p.skip 2) := behind_tagUri hSuffix
    have hSkip : (p.skip 2).Behind p.next := behind_skip 1
    exact behind_next.trans (hSuffix.trans hSkip)
  · cases h
    exact Behind.refl _
  · obtain ⟨handle, hHandle, h⟩ := Option.bind_eq_some_iff.mp h
    obtain ⟨suffix, hSuffix, h⟩ := Option.bind_eq_some_iff.mp h
    cases h
    exact (behind_tagUri hSuffix).trans (behind_tagHandle hHandle)
  · obtain ⟨suffix, hSuffix, h⟩ := Option.bind_eq_some_iff.mp h
    cases h
    exact behind_tagUri hSuffix

theorem behind_writtenTag {oldRules : Bool} {read : WrittenTag × Cursor}
    (h : writtenTag oldRules p = some read) : read.2.Behind p.next := by
  rw [writtenTag_eq] at h
  split_ifs at h
  · exact (behind_tagBehind h).trans behind_next
  · exact behind_tagBehind h

theorem behind_versionField {read : (Nat × Nat) × Cursor} (h : versionField p = some read) :
    read.2.Behind p := by
  obtain ⟨⟨major, first⟩, hMajor, h⟩ := Option.bind_eq_some_iff.mp h
  dsimp only at h
  split_ifs at h
  obtain ⟨⟨minor, second⟩, hMinor, h⟩ := Option.bind_eq_some_iff.mp h
  dsimp only at h
  split_ifs at h
  obtain ⟨q, hEnd, rfl⟩ := Option.map_eq_some_iff.mp h
  have hFirst : first.Behind p := (behind_number hMajor).trans (behind_skipWhile _)
  have hSecond : second.Behind first := (behind_number hMinor).trans behind_next
  exact (ScalarText.behind_endDirective hEnd).trans (hSecond.trans hFirst)

theorem behind_tagField {oldRules : Bool} {read : (String × String) × Cursor}
    (h : tagField oldRules p = some read) : read.2.Behind p := by
  obtain ⟨⟨handle, first⟩, hHandle, h⟩ := Option.bind_eq_some_iff.mp h
  dsimp only at h
  split_ifs at h
  obtain ⟨⟨lead, second⟩, hLead, h⟩ := Option.bind_eq_some_iff.mp h
  dsimp only at h
  split_ifs at h
  obtain ⟨q, hEnd, rfl⟩ := Option.map_eq_some_iff.mp h
  have hFirst : first.Behind p :=
    ((behind_tagHandle hHandle).trans behind_next).trans (behind_skipWhile _)
  have hSecond : second.Behind first := (behind_tagUri hLead).trans (behind_skipWhile _)
  exact (ScalarText.behind_endDirective hEnd).trans (hSecond.trans hFirst)

theorem behind_directiveBody {oldRules : Bool} {minor : Nat}
    {read : (TokenKind × Nat) × Cursor} (h : directiveBody oldRules minor p = some read) :
    read.2.Behind p := by
  have hName : (p.span isDirectiveChar).2.Behind p := behind_span _
  simp only [directiveBody] at h
  split_ifs at h
  · obtain ⟨version, hVersion, rfl⟩ := Option.map_eq_some_iff.mp h
    exact (behind_versionField hVersion).trans hName
  · obtain ⟨field, hField, rfl⟩ := Option.map_eq_some_iff.mp h
    exact (behind_tagField hField).trans hName
  · obtain ⟨q, hEnd, rfl⟩ := Option.map_eq_some_iff.mp h
    exact (ScalarText.behind_endDirective hEnd).trans ((behind_skipWhile _).trans hName)

end

section

variable {s s' : Lexer}

theorem advances_pushMark (hRest : s.cursor.rest ≠ []) (n : Nat) (kind : TokenKind) :
    s.Advances (s.pushMark (n + 1) kind) := ⟨past_skip n hRest, rfl⟩

theorem advances_pushTo (hRest : s.cursor.rest ≠ []) {p : Cursor} (hp : p.Behind s.cursor.next)
    (kind : TokenKind) (allowKey : Bool) : s.Advances (s.pushTo kind p allowKey) :=
  ⟨Past.of_behind hp (past_next hRest), rfl⟩

theorem advances_directive (hRest : s.cursor.rest ≠ []) (h : s.directive = some s') :
    s.Advances s' := by
  rw [directive_eq] at h
  obtain ⟨dropped, hDrop, h⟩ := Option.bind_eq_some_iff.mp h
  obtain ⟨read, hRead, rfl⟩ := Option.map_eq_some_iff.mp h
  have hStays := (stays_unwind s (-1)).trans (stays_dropCandidate hDrop)
  refine hStays.advances ⟨Past.of_behind (behind_directiveBody hRead) (past_next ?_), rfl⟩
  rwa [hStays.cursor]

theorem advances_documentMark {kind : TokenKind} (hRest : s.cursor.rest ≠ [])
    (h : s.documentMark kind = some s') : s.Advances s' := by
  obtain ⟨dropped, hDrop, h⟩ := Option.bind_eq_some_iff.mp h
  cases h
  have hStays := (stays_unwind s (-1)).trans (stays_dropCandidate hDrop)
  refine hStays.advances ⟨past_skip 2 ?_, rfl⟩
  rwa [hStays.cursor]

theorem advances_openFlow {flow : FlowKind} {kind : TokenKind} (hRest : s.cursor.rest ≠ [])
    (h : s.openFlow flow kind = some s') : s.Advances s' := by
  obtain ⟨saved, hSave, h⟩ := Option.bind_eq_some_iff.mp h
  cases h
  have hStays := stays_saveCandidate hSave
  exact hStays.advances ⟨past_skip 0 (hStays.cursor ▸ hRest), rfl⟩

theorem advances_closeFlow {kind : TokenKind} (hRest : s.cursor.rest ≠ [])
    (h : s.closeFlow kind = some s') : s.Advances s' := by
  obtain ⟨dropped, hDrop, h⟩ := Option.bind_eq_some_iff.mp h
  cases h
  have hStays := stays_dropCandidate hDrop
  exact hStays.advances ⟨past_skip 0 (hStays.cursor ▸ hRest), rfl⟩

theorem stays_allowing (s : Lexer) (allowKey : Bool) : s.Stays { s with allowKey := allowKey } :=
  ⟨rfl, rfl⟩

theorem advances_flowEntry (hRest : s.cursor.rest ≠ []) (h : s.flowEntry = some s') :
    s.Advances s' := by
  obtain ⟨dropped, hDrop, h⟩ := Option.bind_eq_some_iff.mp h
  cases h
  have hStays := (stays_allowing s true).trans (stays_dropCandidate hDrop)
  exact hStays.advances (advances_pushMark (hStays.cursor ▸ hRest) 0 _)

theorem advances_blockMark {opened kind : TokenKind} {allowKey : Bool}
    (hRest : s.cursor.rest ≠ []) (h : s.blockMark opened kind allowKey = some s') :
    s.Advances s' := by
  unfold blockMark at h
  split_ifs at h
  · obtain ⟨dropped, hDrop, h⟩ := Option.bind_eq_some_iff.mp h
    cases h
    have hStays := (stays_allowing s allowKey).trans (stays_dropCandidate hDrop)
    exact hStays.advances (advances_pushMark (hStays.cursor ▸ hRest) 0 kind)
  · obtain ⟨dropped, hDrop, h⟩ := Option.bind_eq_some_iff.mp h
    cases h
    have hStays := ((stays_startBlock s opened).trans (stays_allowing _ allowKey)).trans
      (stays_dropCandidate hDrop)
    exact hStays.advances (advances_pushMark (hStays.cursor ▸ hRest) 0 kind)

theorem stays_acceptKey (s : Lexer) (key : KeyCandidate) : s.Stays (s.acceptKey key) := by
  rw [acceptKey_eq]
  dsimp only
  split_ifs
  · exact ⟨rfl, rfl⟩
  · unfold openBlock
    split_ifs <;> exact ⟨rfl, rfl⟩

theorem advances_colon (hRest : s.cursor.rest ≠ []) (h : s.colon = some s') : s.Advances s' := by
  rw [colon_eq] at h
  cases hKey : s.candidates.find? fun key => key.depth == s.depth with
  | none =>
    rw [hKey] at h
    exact advances_blockMark hRest h
  | some key =>
    rw [hKey] at h
    cases h
    have hStays := (stays_acceptKey s key).trans (stays_allowing _ false)
    exact hStays.advances (advances_pushMark (hStays.cursor ▸ hRest) 0 .value)

theorem advances_name {kind : String → TokenKind} (hRest : s.cursor.rest ≠ [])
    (h : s.name kind = some s') : s.Advances s' := by
  rw [name_eq] at h
  obtain ⟨saved, hSave, h⟩ := Option.bind_eq_some_iff.mp h
  dsimp only at h
  split_ifs at h
  cases h
  have hStays := stays_saveCandidate hSave
  exact hStays.advances (advances_pushTo (hStays.cursor ▸ hRest) (behind_span _) _ _)

theorem advances_tag (hRest : s.cursor.rest ≠ []) (h : s.tag = some s') : s.Advances s' := by
  rw [tag_eq] at h
  obtain ⟨saved, hSave, h⟩ := Option.bind_eq_some_iff.mp h
  obtain ⟨⟨written, p⟩, hTag, h⟩ := Option.bind_eq_some_iff.mp h
  dsimp only at h
  split_ifs at h
  cases h
  have hStays := stays_saveCandidate hSave
  exact hStays.advances (advances_pushTo (hStays.cursor ▸ hRest) (behind_writtenTag hTag) _ _)

theorem advances_blockScalar {folded : Bool} (hRest : s.cursor.rest ≠ [])
    (h : s.blockScalar folded = some s') : s.Advances s' := by
  rw [blockScalar_eq] at h
  obtain ⟨dropped, hDrop, h⟩ := Option.bind_eq_some_iff.mp h
  obtain ⟨⟨text, p⟩, hText, h⟩ := Option.bind_eq_some_iff.mp h
  cases h
  have hStays := (stays_allowing s true).trans (stays_dropCandidate hDrop)
  exact hStays.advances
    (advances_pushTo (hStays.cursor ▸ hRest) (ScalarText.behind_block hText) _ _)

theorem behind_quotedText {isDouble : Bool} {fuel : Nat} {p : Cursor} {read : List Nat × Cursor}
    (h : quotedText isDouble fuel p = some read) : read.2.Behind p := by
  unfold quotedText at h
  split_ifs at h
  · exact ScalarText.behind_double h
  · obtain ⟨text, hText, rfl⟩ := Option.map_eq_some_iff.mp h
    exact ScalarText.behind_single hText

theorem advances_quotedScalar {isDouble : Bool} (hRest : s.cursor.rest ≠ [])
    (h : s.quotedScalar isDouble = some s') : s.Advances s' := by
  rw [quotedScalar_eq] at h
  obtain ⟨saved, hSave, h⟩ := Option.bind_eq_some_iff.mp h
  obtain ⟨⟨codes, p⟩, hText, h⟩ := Option.bind_eq_some_iff.mp h
  cases h
  have hStays := stays_saveCandidate hSave
  exact hStays.advances (advances_pushTo (hStays.cursor ▸ hRest) (behind_quotedText hText) _ _)

/-- Where a plain scalar starts, its text goes on with the character at the cursor. -/
theorem plainGoesOn_of_startsPlain (h : s.startsPlain) :
    ScalarText.plainGoesOn ⟨s.inFlow, s.oldRules⟩ s.cursor.head (s.cursor.peek 1) ∧
      s.cursor.head ≠ '#' := by
  unfold startsPlain at h
  dsimp only at h
  generalize s.cursor.head = c at h
  generalize s.cursor.peek 1 = after at h
  unfold ScalarText.plainGoesOn
  rcases Bool.or_eq_true_iff.mp h with hStop | hMark
  · simp only [isPlainStop, List.contains_eq_mem, List.mem_cons, List.not_mem_nil,
      Bool.not_eq_true', Bool.or_eq_false_iff, decide_eq_false_iff_not, not_or, or_false] at hStop
    obtain ⟨hWord, hMarks⟩ := hStop
    simp [hWord, hMarks, ScalarText.isFlowMark]
  · simp only [Bool.and_eq_true, Bool.or_eq_true, Bool.not_eq_true', beq_iff_eq] at hMark
    obtain ⟨hSeparated, (rfl | ⟨⟨rfl, _⟩, _⟩) | ⟨hFlow, rfl | rfl⟩⟩ := hMark
    · simp [endsWord, ScalarText.isFlowMark, isLineEnd, isAnyBreak]
    · simp [hSeparated]
    · simp [hFlow, endsWord, ScalarText.isFlowMark, isLineEnd, isAnyBreak]
    · simp [hSeparated]

theorem not_isEmpty_plainRun (hRest : s.cursor.rest ≠ []) (h : s.startsPlain) :
    ¬(ScalarText.plainRun ⟨s.inFlow, s.oldRules⟩ s.cursor.rest).isEmpty := by
  have hGoesOn := (plainGoesOn_of_startsPlain h).1
  obtain ⟨c, rest, hCons⟩ := List.exists_cons_of_ne_nil hRest
  have hHead : s.cursor.head = c := by rw [head_eq, hCons]; rfl
  have hAfter : s.cursor.peek 1 = rest.headD '\x00' := by simp [peek, hCons]
  rw [hHead, hAfter] at hGoesOn
  rw [hCons, ScalarText.plainRun, if_pos hGoesOn]
  simp

theorem past_plainText (hRest : s.cursor.rest ≠ []) (hFits : s.cursor.Fits s.fuel)
    (h : s.startsPlain) : s.plainText.cursor.Past s.cursor := by
  have hRun := not_isEmpty_plainRun hRest h
  have hComment : ¬(s.cursor.head == '#') := by
    simpa using (plainGoesOn_of_startsPlain h).2
  unfold plainText
  generalize s.fuel = fuel at hFits
  cases fuel with
  | zero => exact absurd hFits not_fits_zero
  | succ fuel =>
    rw [ScalarText.plain, if_neg hComment]
    dsimp only
    rw [if_neg hRun]
    have hPast := Past.of_behind (ScalarText.behind_plainSpaces fuel _)
      (ScalarText.past_plainRun hRun)
    split
    · exact hPast
    · exact Past.of_behind (ScalarText.behind_plain _ _ _ _ _ _ _) hPast

theorem advances_plainScalar (hRest : s.cursor.rest ≠ []) (hFits : s.cursor.Fits s.fuel)
    (hStarts : s.startsPlain) (h : s.plainScalar = some s') : s.Advances s' := by
  rw [plainScalar_eq] at h
  obtain ⟨saved, hSave, h⟩ := Option.bind_eq_some_iff.mp h
  cases h
  obtain ⟨keys, rfl⟩ := saveCandidate_eq_some hSave
  exact ⟨past_plainText hRest hFits hStarts, rfl⟩

theorem of_ite_eq_some {c : Prop} [Decidable c] {a b : Option Lexer} {P : Lexer → Prop}
    (ha : c → ∀ s', a = some s' → P s') (hb : ¬c → ∀ s', b = some s' → P s') (s' : Lexer)
    (h : (if c then a else b) = some s') : P s' := by
  split_ifs at h with hc
  · exact ha hc s' h
  · exact hb hc s' h

theorem readToken_cases {unread : Bool} (hFits : s.cursor.Fits s.fuel)
    (h : s.readToken unread = some s') : s'.done ∨ s.Advances s' := by
  refine of_ite_eq_some (P := fun s' => s'.done ∨ s.Advances s')
    (fun _ s' h => ?_) (fun hEnd s' h => Or.inr ?_) s' h
  · obtain ⟨dropped, _, h⟩ := Option.bind_eq_some_iff.mp h
    cases h
    exact Or.inl rfl
  revert h s'
  have hRest : s.cursor.rest ≠ [] := fun hNil => hEnd (atEnd_iff.mpr hNil)
  exact
    of_ite_eq_some (fun _ _ => advances_directive hRest) <| fun _ =>
    of_ite_eq_some (fun _ _ => advances_documentMark hRest) <| fun _ =>
    of_ite_eq_some (fun _ _ => advances_documentMark hRest) <| fun _ =>
    of_ite_eq_some (fun _ _ => advances_openFlow hRest) <| fun _ =>
    of_ite_eq_some (fun _ _ => advances_openFlow hRest) <| fun _ =>
    of_ite_eq_some (fun _ _ => advances_closeFlow hRest) <| fun _ =>
    of_ite_eq_some (fun _ _ => advances_closeFlow hRest) <| fun _ =>
    of_ite_eq_some (fun _ _ => advances_flowEntry hRest) <| fun _ =>
    of_ite_eq_some (fun _ _ => blockEntry_eq s ▸ advances_blockMark hRest) <| fun _ =>
    of_ite_eq_some (fun _ _ => explicitKey_eq s ▸ advances_blockMark hRest) <| fun _ =>
    of_ite_eq_some (fun _ _ => advances_colon hRest) <| fun _ =>
    of_ite_eq_some (fun _ _ => advances_name hRest) <| fun _ =>
    of_ite_eq_some (fun _ _ => advances_name hRest) <| fun _ =>
    of_ite_eq_some (fun _ _ => advances_tag hRest) <| fun _ =>
    of_ite_eq_some (fun _ _ => advances_blockScalar hRest) <| fun _ =>
    of_ite_eq_some (fun _ _ => advances_blockScalar hRest) <| fun _ =>
    of_ite_eq_some (fun _ _ => advances_quotedScalar hRest) <| fun _ =>
    of_ite_eq_some (fun _ _ => advances_quotedScalar hRest) <| fun _ =>
    of_ite_eq_some (fun hStarts _ => advances_plainScalar hRest hFits hStarts)
      fun _ _ h => nomatch (h : none = some _)

theorem step_cases (hFits : s.cursor.Fits s.fuel) (h : s.step = some s') :
    s'.done ∨ s.Advances s' := by
  rw [step_eq] at h
  obtain ⟨fresh, hFresh, h⟩ := Option.bind_eq_some_iff.mp h
  obtain ⟨next, hNext, h⟩ := Option.bind_eq_some_iff.mp h
  have hStart := stays_dropStale hFresh
  obtain ⟨hBehind, hFuel⟩ := behind_skipToToken fresh.fuel fresh
  have hStays := (stays_dropStale hNext).trans (stays_unwind next next.cursor.column)
  have hCursor : (next.unwind next.cursor.column).cursor.Behind s.cursor := by
    rw [hStays.cursor, ← hStart.cursor]
    exact hBehind
  have hSameFuel : (next.unwind next.cursor.column).fuel = s.fuel := by
    rw [hStays.fuel, hFuel, hStart.fuel]
  rcases readToken_cases (hSameFuel ▸ hFits.of_behind hCursor) h with hDone | hAdvances
  · exact Or.inl hDone
  · exact Or.inr ⟨hCursor.past hAdvances.past, hAdvances.fuel.trans hSameFuel⟩

end

theorem run_moved (o : Origin) {s : Lexer} {n m : Nat} (hs : s.Fueled o) (hn : s.cursor.Fits n)
    (hm : s.cursor.Fits m) :
    (s.moved o).run (n + 1) = (s.run (m + 1)).map (List.map (Token.moved o)) := by
  induction n generalizing m s with
  | zero => exact absurd hn not_fits_zero
  | succ n ih =>
    cases m with
    | zero => exact absurd hm not_fits_zero
    | succ m =>
      rw [run, run, done_moved]
      split_ifs
      · simp [moved]
      · rw [step_moved o s hs]
        cases hStep : s.step with
        | none => rfl
        | some next =>
          rcases step_cases hs.own hStep with hDone | hAdvances
          · simp [run, hDone, moved]
          · exact ih (hs.of_behind hAdvances.past.behind hAdvances.fuel)
              (hn.of_past hAdvances.past) (hm.of_past hAdvances.past)

end Lexer

end BuildSync.Yaml
