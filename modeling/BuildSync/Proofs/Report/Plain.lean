import Mathlib.Tactic.SplitIfs
import BuildSync.Proofs.Text.Lines
import BuildSync.Report

/-!
# Texts without their escape sequences

Where colours are not kept, the escape sequences of a text are left out. What is left stands on as
many lines as the text, and a header is left as it would have been written without a style.
-/

set_option autoImplicit false

namespace BuildSync.Report

open Text (OnOneLine onOneLine_append_iff)

/-- The text without its escape sequences. -/
def withoutSequences (cs : List Char) : List Char := plainChars cs.length cs

theorem toList_plain (s : String) : (plain s).toList = withoutSequences s.toList := by
  rw [plain, String.toList_ofList, ← String.length_toList]
  rfl

section

variable {c : Char} {cs rest : List Char}

/-- A parameter of an escape sequence. -/
def isParameter (c : Char) : Bool := c == ';' || c == '?' || c.isDigit

theorem not_lineBreak_of_isParameter (h : isParameter c) : Text.isLineBreak c = false := by
  simp only [isParameter, Bool.or_eq_true, beq_iff_eq] at h
  rcases h with (rfl | rfl) | hDigit
  · decide
  · decide
  · exact Text.not_lineBreak_of_isAlphanum (by simp [Char.isAlphanum, hDigit])

theorem skipSequence_eq (cs : List Char) :
    skipSequence ('\x1b' :: '[' :: cs) =
      match cs.dropWhile isParameter with
      | c :: rest => if c.isAlpha then some rest else none
      | [] => none := rfl

/-- An escape sequence has parameters and a letter behind its mark. -/
theorem skipSequence_eq_some_iff :
    skipSequence cs = some rest ↔ ∃ parameters last, (∀ c ∈ parameters, isParameter c) ∧
      last.isAlpha ∧ isParameter last = false ∧
      cs = '\x1b' :: '[' :: (parameters ++ last :: rest) := by
  constructor
  · intro h
    have hMark : ∃ more, cs = '\x1b' :: '[' :: more := by
      unfold skipSequence at h
      split at h
      · exact ⟨_, rfl⟩
      · cases h
    obtain ⟨more, rfl⟩ := hMark
    rw [skipSequence_eq] at h
    cases hMore : more.dropWhile isParameter with
    | nil => simp [hMore] at h
    | cons last behind =>
      simp only [hMore] at h
      split_ifs at h with hAlpha
      cases h
      have hLast := List.head?_dropWhile_not isParameter more
      rw [hMore] at hLast
      refine ⟨more.takeWhile isParameter, last, List.all_eq_true.mp List.all_takeWhile, hAlpha,
        hLast, ?_⟩
      rw [← hMore, List.takeWhile_append_dropWhile]
  · rintro ⟨parameters, last, hParameters, hAlpha, hLast, rfl⟩
    rw [skipSequence_eq, List.dropWhile_append_of_pos hParameters,
      List.dropWhile_cons_of_neg (by simp [hLast])]
    simp [hAlpha]

/-- An escape sequence is not empty, and no line ends in it. -/
theorem skipSequence_eq_some (h : skipSequence cs = some rest) :
    ∃ removed, cs = removed ++ rest ∧ removed ≠ [] ∧ OnOneLine removed ∧ '\x1b' ∈ cs := by
  obtain ⟨parameters, last, hParameters, hLast, -, rfl⟩ := skipSequence_eq_some_iff.mp h
  refine ⟨'\x1b' :: '[' :: (parameters ++ [last]), by simp, by simp, ?_, List.mem_cons_self⟩
  have hOne : OnOneLine (parameters ++ [last]) :=
    onOneLine_append_iff.mpr ⟨fun c hc => not_lineBreak_of_isParameter (hParameters c hc),
      List.forall_mem_singleton.mpr
        (Text.not_lineBreak_of_isAlphanum (by simp [Char.isAlphanum, hLast]))⟩
  exact List.forall_mem_cons.mpr ⟨rfl, List.forall_mem_cons.mpr ⟨rfl, hOne⟩⟩

theorem length_lt_of_skipSequence (h : skipSequence cs = some rest) :
    rest.length < cs.length := by
  obtain ⟨removed, hEq, hNe, -, -⟩ := skipSequence_eq_some h
  have hPos := List.length_pos_iff.mpr hNe
  rw [hEq, List.length_append]
  omega

/-- A text is read character by character, or by a whole escape sequence. -/
theorem sequence_induction {P : List Char → Prop} (hNil : P [])
    (hChar : ∀ c cs, skipSequence (c :: cs) = none → P cs → P (c :: cs))
    (hSkip : ∀ cs rest, skipSequence cs = some rest → P rest → P cs) (cs : List Char) : P cs := by
  induction hn : cs.length using Nat.strongRecOn generalizing cs with
  | ind n ih =>
    cases hSequence : skipSequence cs with
    | some rest =>
      exact hSkip cs rest hSequence (ih _ (hn ▸ length_lt_of_skipSequence hSequence) rest rfl)
    | none =>
      cases cs with
      | nil => exact hNil
      | cons c cs => exact hChar c cs hSequence (ih _ (hn ▸ Nat.lt_succ_self _) cs rfl)

theorem plainChars_fuel {n m : Nat} (hn : cs.length ≤ n) (hm : cs.length ≤ m) :
    plainChars n cs = plainChars m cs := by
  induction n generalizing m cs with
  | zero =>
    obtain rfl := List.length_eq_zero_iff.mp (Nat.le_zero.mp hn)
    cases m <;> rfl
  | succ n ih =>
    cases cs with
    | nil => cases m <;> rfl
    | cons c cs =>
      cases m with
      | zero => cases hm
      | succ m =>
        have hn := Nat.le_of_succ_le_succ hn
        have hm := Nat.le_of_succ_le_succ hm
        rw [plainChars, plainChars]
        cases hSkip : skipSequence (c :: cs) with
        | none => exact congrArg (c :: ·) (ih hn hm)
        | some rest =>
          have hRest := Nat.le_of_lt_succ (length_lt_of_skipSequence hSkip)
          exact ih (Nat.le_trans hRest hn) (Nat.le_trans hRest hm)

theorem withoutSequences_of_none (h : skipSequence (c :: cs) = none) :
    withoutSequences (c :: cs) = c :: withoutSequences cs := by
  rw [withoutSequences, List.length_cons, plainChars, h]
  rfl

theorem withoutSequences_of_some (h : skipSequence cs = some rest) :
    withoutSequences cs = withoutSequences rest := by
  cases cs with
  | nil => cases h
  | cons c cs =>
    rw [withoutSequences, List.length_cons, plainChars, h]
    exact plainChars_fuel (Nat.le_of_lt_succ (length_lt_of_skipSequence h)) (Nat.le_refl _)

theorem withoutSequences_eq_self (h : '\x1b' ∉ cs) : withoutSequences cs = cs := by
  induction cs with
  | nil => rfl
  | cons c cs ih =>
    cases hSkip : skipSequence (c :: cs) with
    | none =>
      rw [withoutSequences_of_none hSkip, ih fun hMem => h (List.mem_cons_of_mem c hMem)]
    | some rest =>
      obtain ⟨-, -, -, -, hMem⟩ := skipSequence_eq_some hSkip
      exact absurd hMem h

theorem onOneLine_withoutSequences_iff (cs : List Char) :
    OnOneLine (withoutSequences cs) ↔ OnOneLine cs := by
  induction cs using sequence_induction with
  | hNil => rfl
  | hChar c cs hNone ih =>
    rw [withoutSequences_of_none hNone]
    have hCons (cs : List Char) :
        OnOneLine (c :: cs) ↔ Text.isLineBreak c = false ∧ OnOneLine cs := List.forall_mem_cons
    rw [hCons, hCons, ih]
  | hSkip cs rest hSome ih =>
    obtain ⟨removed, hEq, -, hRemoved, -⟩ := skipSequence_eq_some hSome
    rw [withoutSequences_of_some hSome, ih, hEq, onOneLine_append_iff]
    exact (and_iff_right hRemoved).symm

/-- A blank ends every escape sequence in front of it. -/
theorem skipSequence_append_blank (cs ys : List Char) :
    skipSequence (cs ++ ' ' :: ys) = (skipSequence cs).map (· ++ ' ' :: ys) := by
  cases hSequence : skipSequence cs with
  | some rest =>
    obtain ⟨parameters, last, hParameters, hAlpha, hLast, rfl⟩ :=
      skipSequence_eq_some_iff.mp hSequence
    exact skipSequence_eq_some_iff.mpr ⟨parameters, last, hParameters, hAlpha, hLast, by simp⟩
  | none =>
    refine Option.eq_none_iff_forall_ne_some.mpr fun rest hRest => ?_
    obtain ⟨parameters, last, hParameters, hAlpha, hLast, hEq⟩ :=
      skipSequence_eq_some_iff.mp hRest
    have hBlank : ' ' ∉ '\x1b' :: '[' :: (parameters ++ [last]) := by
      intro hMem
      rcases List.mem_cons.mp hMem with hEq | hMem
      · cases hEq
      rcases List.mem_cons.mp hMem with hEq | hMem
      · cases hEq
      rcases List.mem_append.mp hMem with hMem | hMem
      · exact absurd (hParameters _ hMem) (by decide)
      · exact absurd (List.mem_singleton.mp hMem ▸ hAlpha) (by decide)
    have hSplit : cs ++ ' ' :: ys = ('\x1b' :: '[' :: (parameters ++ [last])) ++ rest := by
      simpa using hEq
    rcases List.append_eq_append_iff.mp hSplit with ⟨more, hSeq, hMore⟩ | ⟨more, hCs, hMore⟩
    · cases more with
      | nil =>
        have hSome : skipSequence cs = some [] :=
          skipSequence_eq_some_iff.mpr
            ⟨parameters, last, hParameters, hAlpha, hLast, by simpa using hSeq.symm⟩
        cases hSequence.symm.trans hSome
      | cons c more =>
        cases hMore
        exact hBlank (hSeq ▸ by simp)
    · have hSome : skipSequence cs = some more :=
        skipSequence_eq_some_iff.mpr
          ⟨parameters, last, hParameters, hAlpha, hLast, by simpa using hCs⟩
      cases hSequence.symm.trans hSome

theorem withoutSequences_append_blank (xs ys : List Char) :
    withoutSequences (xs ++ ' ' :: ys) = withoutSequences xs ++ withoutSequences (' ' :: ys) := by
  induction xs using sequence_induction with
  | hNil => rfl
  | hChar c xs hNone ih =>
    have hAlso := skipSequence_append_blank (c :: xs) ys
    rw [hNone] at hAlso
    rw [withoutSequences_of_none hNone, List.cons_append, List.cons_append, ← ih]
    exact withoutSequences_of_none hAlso
  | hSkip xs rest hSome ih =>
    have hAlso := skipSequence_append_blank xs ys
    rw [hSome] at hAlso
    rw [withoutSequences_of_some hSome, withoutSequences_of_some hAlso, ih]

end

/-- The start and the end of a header in bold. -/
def boldOpen : List Char := "\x1b[1m".toList

def boldClose : List Char := "\x1b[0m".toList

theorem withoutSequences_boldOpen (cs : List Char) :
    withoutSequences (boldOpen ++ cs) = withoutSequences cs := by
  refine withoutSequences_of_some (skipSequence_eq_some_iff.mpr ⟨['1'], 'm', ?_, ?_, ?_, rfl⟩)
  · exact List.forall_mem_singleton.mpr (by decide)
  · decide
  · decide

theorem toList_header (d : Option Definition) :
    (header true d).toList = boldOpen ++ (header false d).toList ++ boldClose := by
  have hOpen : (escapeOpen "1").toList = boldOpen := by decide
  have hClose : (escapeOpen "0").toList = boldClose := by decide
  simp [header, styled, String.toList_append, hOpen, hClose]

/-- What a header says behind its mark. -/
def headerWords : Option Definition → String
  | some (.inline _ _) => "Inline pipeline script"
  | some (.scm _ scriptPath) => "Pipeline script " ++ scriptPath ++ " from checkout"
  | _ => "Unsupported pipeline definition"

theorem header_eq (d : Option Definition) : header false d = "# " ++ headerWords d := by
  rcases d with _ | ⟨script, sandbox⟩ | ⟨checkout, scriptPath⟩ | className <;> rfl

theorem toList_header_false (d : Option Definition) :
    (header false d).toList = '#' :: ' ' :: (headerWords d).toList := by
  have hMark : "# ".toList = ['#', ' '] := by decide
  rw [header_eq, String.toList_append, hMark]
  rfl

theorem toList_headerWords_scm (checkout : Checkout) (scriptPath : String) :
    (headerWords (some (.scm checkout scriptPath))).toList =
      "Pipeline script ".toList ++ scriptPath.toList ++ " from checkout".toList := by
  rw [← String.toList_append, ← String.toList_append]
  rfl

/-- The last word of a header holds no escape sequence. -/
theorem headerWords_eq (d : Option Definition) :
    ∃ lead last, (headerWords d).toList = lead ++ ' ' :: last ∧ '\x1b' ∉ ' ' :: last ∧
      withoutSequences (' ' :: (last ++ boldClose)) = ' ' :: last := by
  have hUnsupported : "Unsupported pipeline definition".toList =
      "Unsupported pipeline".toList ++ ' ' :: "definition".toList := by decide
  have hInline : "Inline pipeline script".toList =
      "Inline pipeline".toList ++ ' ' :: "script".toList := by decide
  have hFrom : " from checkout".toList = " from".toList ++ ' ' :: "checkout".toList := by decide
  rcases d with _ | ⟨script, sandbox⟩ | ⟨checkout, scriptPath⟩ | className
  · exact ⟨_, _, hUnsupported, by decide, by decide⟩
  · exact ⟨_, _, hInline, by decide, by decide⟩
  · have hSplit := congrArg ("Pipeline script ".toList ++ scriptPath.toList ++ ·) hFrom
    have hWords := (toList_headerWords_scm checkout scriptPath).trans hSplit
    exact ⟨_, _, hWords.trans (List.append_assoc _ _ _).symm, by decide, by decide⟩
  · exact ⟨_, _, hUnsupported, by decide, by decide⟩

/-- A style shows in nothing but escape sequences, which are left out again. -/
theorem plain_header (color : Bool) (d : Option Definition) :
    plain (header color d) = plain (header false d) := by
  cases color with
  | false => rfl
  | true =>
    obtain ⟨lead, last, hWords, hLast, hClose⟩ := headerWords_eq d
    have hPlain : (header false d).toList = '#' :: ' ' :: lead ++ ' ' :: last := by
      rw [toList_header_false, hWords]
      rfl
    have hStyled : (header false d).toList ++ boldClose =
        '#' :: ' ' :: lead ++ ' ' :: (last ++ boldClose) := by
      rw [hPlain, List.append_assoc]
      rfl
    refine String.toList_inj.mp ?_
    rw [toList_plain, toList_plain, toList_header, List.append_assoc, withoutSequences_boldOpen,
      hStyled, hPlain, withoutSequences_append_blank, withoutSequences_append_blank, hClose,
      withoutSequences_eq_self hLast]

theorem toList_plain_header (d : Option Definition) :
    (plain (header false d)).toList = '#' :: ' ' :: withoutSequences (headerWords d).toList := by
  rw [toList_plain, toList_header_false, withoutSequences_of_none rfl, withoutSequences_of_none rfl]

end BuildSync.Report
