import Mathlib.Tactic.SplitIfs
import BuildSync.Yaml.Lexer

/-!
# Reading at another place

What is read at a cursor depends on the characters behind it and on its column, and not on how many
characters and lines stand in front of it.
-/

set_option autoImplicit false

namespace BuildSync.Yaml

/-- The characters and lines in front of a text, and the fuel that its lexer is given. -/
structure Origin where
  index : Nat
  line : Nat
  fuel : Nat

variable (o : Origin)

namespace Cursor

def moved (p : Cursor) : Cursor := ⟨p.rest, p.index + o.index, p.line + o.line, p.column⟩

variable (p : Cursor)

@[simp] theorem rest_moved : (p.moved o).rest = p.rest := rfl

@[simp] theorem index_moved : (p.moved o).index = p.index + o.index := rfl

@[simp] theorem line_moved : (p.moved o).line = p.line + o.line := rfl

@[simp] theorem column_moved : (p.moved o).column = p.column := rfl

@[simp] theorem peek_moved (n : Nat) : (p.moved o).peek n = p.peek n := rfl

@[simp] theorem head_moved : (p.moved o).head = p.head := rfl

@[simp] theorem atEnd_moved : (p.moved o).atEnd = p.atEnd := rfl

@[simp] theorem atDocumentMark_moved : (p.moved o).atDocumentMark = p.atDocumentMark := rfl

@[simp] theorem next_moved : (p.moved o).next = p.next.moved o := by
  obtain ⟨rest, index, line, column⟩ := p
  cases rest with
  | nil => rfl
  | cons c rest =>
    simp only [next, moved]
    split_ifs <;> simp only [Cursor.mk.injEq, true_and, and_true] <;> omega

@[simp] theorem skip_moved (n : Nat) : (p.moved o).skip n = (p.skip n).moved o := by
  induction n generalizing p with
  | zero => rfl
  | succ n ih => rw [skip, next_moved, ih, skip]

@[simp] theorem span_moved (inClass : Char → Bool) :
    (p.moved o).span inClass = ((p.span inClass).1, (p.span inClass).2.moved o) := by
  simp only [span, rest_moved, skip_moved]

@[simp] theorem skipWhile_moved (inClass : Char → Bool) :
    (p.moved o).skipWhile inClass = (p.skipWhile inClass).moved o := by
  simp only [skipWhile, span_moved]

@[simp] theorem lineBreak_moved :
    (p.moved o).lineBreak = p.lineBreak.map fun found => (found.1, found.2.moved o) := by
  simp only [lineBreak, head_moved, peek_moved, skip_moved, next_moved]
  split_ifs <;> rfl

/-- A comment at the cursor is left out, up to the end of its line. -/
def skipComment (p : Cursor) : Cursor :=
  if p.head == '#' then p.skipWhile (!isLineEnd ·) else p

@[simp] theorem skipComment_moved : (p.moved o).skipComment = p.skipComment.moved o := by
  simp only [skipComment, head_moved, skipWhile_moved]
  exact (apply_ite (moved o) _ _ _).symm

end Cursor

/-- What a reader returns, with the cursor behind it moved. -/
def movedRead {α : Type} (read : α × Cursor) : α × Cursor := (read.1, read.2.moved o)

theorem Lexer.endDirective_eq (p : Cursor) :
    Lexer.endDirective p =
      let p := (p.skipWhile (· == ' ')).skipComment
      if !isLineEnd p.head then none
      else
        match p.lineBreak with
        | some (_, p) => some p
        | none => some p := rfl

@[simp] theorem Lexer.endDirective_moved (p : Cursor) :
    Lexer.endDirective (p.moved o) = (Lexer.endDirective p).map (Cursor.moved o) := by
  simp only [Lexer.endDirective_eq, Cursor.skipWhile_moved, Cursor.skipComment_moved,
    Cursor.head_moved, Cursor.lineBreak_moved]
  split_ifs
  · rfl
  · cases (p.skipWhile (· == ' ')).skipComment.lineBreak <;> rfl

namespace ScalarText

variable (p : Cursor)

@[simp] theorem quotedBreaks_moved (fuel : Nat) (found : List Char) :
    quotedBreaks fuel (p.moved o) found = (quotedBreaks fuel p found).map (movedRead o) := by
  induction fuel generalizing p found with
  | zero => rfl
  | succ fuel ih =>
    simp only [quotedBreaks, Cursor.atDocumentMark_moved, Cursor.skipWhile_moved,
      Cursor.lineBreak_moved]
    split
    · rfl
    · cases (p.skipWhile fun c => c == ' ' || c == '\t').lineBreak with
      | none => rfl
      | some found => exact ih _ _

@[simp] theorem quotedSpaces_moved (fuel : Nat) :
    quotedSpaces fuel (p.moved o) = (quotedSpaces fuel p).map (movedRead o) := by
  simp only [quotedSpaces, Cursor.span_moved, Cursor.atEnd_moved, Cursor.lineBreak_moved]
  split_ifs
  · rfl
  · cases (p.span fun c => c == ' ' || c == '\t').2.lineBreak with
    | none => rfl
    | some found => simp [Option.bind_map, Function.comp_def, movedRead]

@[simp] theorem single_moved (fuel : Nat) (done : List Char) :
    single fuel (p.moved o) done = (single fuel p done).map (movedRead o) := by
  induction fuel generalizing p done with
  | zero => rfl
  | succ fuel ih =>
    simp only [single, Cursor.head_moved, Cursor.peek_moved, Cursor.skip_moved, Cursor.next_moved,
      Cursor.span_moved, quotedSpaces_moved, ih]
    split_ifs <;> simp [Option.bind_map, Option.map_bind, Function.comp_def, movedRead, ih]

@[simp] theorem hexCode_moved (width : Nat) : hexCode width (p.moved o) = hexCode width p := rfl

/-- The code points that an escape behind its backslash stands for, and the cursor behind it. -/
def escaped (fuel : Nat) (p : Cursor) : Option (List Nat × Cursor) :=
  (letterEscapes.lookup p.head).elim
    ((hexWidth p.head).elim
      (p.lineBreak.bind fun found => (quotedBreaks fuel found.2 []).map fun read =>
        ((read.1.map Char.toNat).reverse, read.2))
      fun width => (hexCode width p.next).map fun n => ([n], p.skip (width + 1)))
    fun d => some ([d.toNat], p.next)

theorem double_succ (fuel : Nat) (done : List Nat) :
    double (fuel + 1) p done =
      if p.head == '"' then some (done.reverse, p.next)
      else if p.head == '\'' then double fuel p.next (p.head.toNat :: done)
      else if p.head == '\\' then
        (escaped fuel p.next).bind fun read => double fuel read.2 (read.1 ++ done)
      else if isQuotedStop p.head then
        (quotedSpaces fuel p).bind fun read =>
          double fuel read.2 ((read.1.map Char.toNat).reverse ++ done)
      else
        double fuel (p.span (!isQuotedStop ·)).2
          (((p.span (!isQuotedStop ·)).1.map Char.toNat).reverse ++ done) := by
  rw [double]
  dsimp only
  split_ifs
  · rfl
  · rfl
  · unfold escaped
    cases letterEscapes.lookup p.next.head with
    | some d => rfl
    | none =>
      cases hexWidth p.next.head with
      | some width =>
        dsimp only [Option.elim]
        cases hexCode width p.next.next <;> rfl
      | none =>
        cases p.next.lineBreak with
        | none => rfl
        | some found =>
          dsimp only [Option.elim, Option.bind_some]
          cases quotedBreaks fuel found.2 [] <;> rfl
  · rfl
  · rfl

@[simp] theorem escaped_moved (fuel : Nat) :
    escaped fuel (p.moved o) = (escaped fuel p).map (movedRead o) := by
  simp only [escaped, Cursor.head_moved, Cursor.next_moved, Cursor.skip_moved, hexCode_moved,
    Cursor.lineBreak_moved]
  cases letterEscapes.lookup p.head with
  | some d => rfl
  | none =>
    cases hexWidth p.head with
    | some width => simp [Function.comp_def, movedRead]
    | none => simp [Option.bind_map, Option.map_bind, Function.comp_def, movedRead]

@[simp] theorem double_moved (fuel : Nat) (done : List Nat) :
    double fuel (p.moved o) done = (double fuel p done).map (movedRead o) := by
  induction fuel generalizing p done with
  | zero => rfl
  | succ fuel ih =>
    simp only [double_succ, Cursor.head_moved, Cursor.next_moved, Cursor.span_moved,
      quotedSpaces_moved, escaped_moved, ih]
    split_ifs
    · rfl
    · rfl
    · simp [Option.bind_map, Option.map_bind, Function.comp_def, movedRead, ih]
    · simp [Option.bind_map, Option.map_bind, Function.comp_def, movedRead, ih]
    · rfl

@[simp] theorem plainBreaks_moved (fuel : Nat) (found : List Char) :
    plainBreaks fuel (p.moved o) found = movedRead o (plainBreaks fuel p found) := by
  induction fuel generalizing p found with
  | zero => rfl
  | succ fuel ih =>
    simp only [plainBreaks, Cursor.head_moved, Cursor.next_moved, Cursor.lineBreak_moved, ih]
    split_ifs
    · rfl
    · cases p.lineBreak with
      | none => rfl
      | some found =>
        simp only [Option.map_some, Cursor.atDocumentMark_moved, ih]
        split_ifs <;> rfl

@[simp] theorem plainSpaces_moved (fuel : Nat) :
    plainSpaces fuel (p.moved o) =
      ((plainSpaces fuel p).1, (plainSpaces fuel p).2.1, (plainSpaces fuel p).2.2.moved o) := by
  simp only [plainSpaces, Cursor.span_moved, Cursor.lineBreak_moved]
  cases (p.span (· == ' ')).2.lineBreak with
  | none => rfl
  | some found =>
    simp only [Option.map_some, Cursor.atDocumentMark_moved, plainBreaks_moved]
    split_ifs
    · rfl
    · obtain ⟨_ | breaks, q⟩ := plainBreaks fuel found.2 [] <;> rfl

/-- A plain text with the cursor behind it moved. -/
def PlainText.moved (read : PlainText) : PlainText := { read with cursor := read.cursor.moved o }

@[simp] theorem plain_moved (rules : PlainRules) (indent fuel : Nat) (done spaces : List Char)
    (broke : Bool) :
    plain rules indent fuel (p.moved o) done spaces broke =
      (plain rules indent fuel p done spaces broke).moved o := by
  induction fuel generalizing p done spaces broke with
  | zero => rfl
  | succ fuel ih =>
    simp only [plain, Cursor.head_moved, Cursor.rest_moved, Cursor.skip_moved, plainSpaces_moved,
      Cursor.column_moved, ih]
    split_ifs <;> rfl

@[simp] theorem increment_moved : increment (p.moved o) = (increment p).map (movedRead o) := by
  simp only [increment, Cursor.head_moved, Cursor.next_moved]
  split_ifs <;> rfl

/-- The marks of a block header. -/
def headerMarks (p : Cursor) : Option (BlockHeader × Cursor) :=
  match chomping? p.head with
  | some chomping => do
    let (n, p) ← increment p.next
    some (BlockHeader.mk chomping n, p)
  | none => do
    let (n, p) ← increment p
    match n, chomping? p.head with
    | some n, some chomping => some (⟨chomping, some n⟩, p.next)
    | n, _ => some (⟨.clip, n⟩, p)

/-- The line behind the marks of a block header, which holds nothing but a comment. -/
def headerEnd (header : BlockHeader) (p : Cursor) : Option (BlockHeader × Cursor) :=
  if !(p.head == ' ' || isLineEnd p.head) then none
  else (Lexer.endDirective p).map fun next => (header, next)

theorem blockHeader_eq :
    blockHeader p = (headerMarks p).bind fun read => headerEnd read.1 read.2 := by
  have hEnd (header : BlockHeader) (p : Cursor) :
      headerEnd header p =
        if !(p.head == ' ' || isLineEnd p.head) then none
        else
          let p := (p.skipWhile (· == ' ')).skipComment
          if !isLineEnd p.head then none
          else
            match p.lineBreak with
            | some (_, p) => some (header, p)
            | none => some (header, p) := by
    simp only [headerEnd, Lexer.endDirective_eq]
    split_ifs
    · rfl
    · rfl
    · cases (p.skipWhile (· == ' ')).skipComment.lineBreak <;> rfl
  unfold blockHeader headerMarks
  simp only [hEnd]
  cases chomping? p.head with
  | some chomping => cases increment p.next <;> rfl
  | none =>
    rcases increment p with _ | ⟨_ | n, q⟩
    · rfl
    · rfl
    · simp only [Option.bind_eq_bind, Option.bind_some]
      cases chomping? q.head <;> rfl

@[simp] theorem headerMarks_moved :
    headerMarks (p.moved o) = (headerMarks p).map (movedRead o) := by
  simp only [headerMarks, Cursor.head_moved, Cursor.next_moved, increment_moved]
  cases chomping? p.head with
  | some chomping => simp [Option.bind_map, Option.map_bind, Function.comp_def, movedRead]
  | none =>
    cases increment p with
    | none => rfl
    | some read =>
      obtain ⟨n, q⟩ := read
      simp only [Option.map_some, movedRead, Option.bind_eq_bind, Option.bind_some,
        Cursor.head_moved, Cursor.next_moved]
      cases n <;> cases chomping? q.head <;> rfl

@[simp] theorem headerEnd_moved (header : BlockHeader) :
    headerEnd header (p.moved o) = (headerEnd header p).map (movedRead o) := by
  simp only [headerEnd, Cursor.head_moved, Lexer.endDirective_moved]
  split_ifs
  · rfl
  · simp [Function.comp_def, movedRead]

@[simp] theorem blockHeader_moved :
    blockHeader (p.moved o) = (blockHeader p).map (movedRead o) := by
  simp [blockHeader_eq, Option.bind_map, Option.map_bind, Function.comp_def, movedRead]

@[simp] theorem blockIndentation_moved (fuel : Nat) (found : List Char) (widest : Nat)
    (first : Option Nat) :
    blockIndentation fuel (p.moved o) found widest first =
      ((blockIndentation fuel p found widest first).1,
        (blockIndentation fuel p found widest first).2.1,
        (blockIndentation fuel p found widest first).2.2.1,
        (blockIndentation fuel p found widest first).2.2.2.moved o) := by
  induction fuel generalizing p found widest first with
  | zero => rfl
  | succ fuel ih =>
    simp only [blockIndentation, Cursor.head_moved, Cursor.next_moved, Cursor.column_moved,
      Cursor.lineBreak_moved, ih]
    split_ifs
    · rfl
    · cases p.lineBreak with
      | none => rfl
      | some found => exact ih _ _ _ _

@[simp] theorem skipIndent_moved (indent fuel : Nat) :
    skipIndent indent fuel (p.moved o) = (skipIndent indent fuel p).moved o := by
  induction fuel generalizing p with
  | zero => rfl
  | succ fuel ih =>
    simp only [skipIndent, Cursor.head_moved, Cursor.next_moved, Cursor.column_moved, ih]
    exact (apply_ite (Cursor.moved o) _ _ _).symm

@[simp] theorem blockBreaks_moved (indent fuel : Nat) (found : List Char) :
    blockBreaks indent fuel (p.moved o) found = movedRead o (blockBreaks indent fuel p found) := by
  induction fuel generalizing p found with
  | zero => rfl
  | succ fuel ih =>
    simp only [blockBreaks, skipIndent_moved, Cursor.lineBreak_moved]
    cases (skipIndent indent fuel p).lineBreak with
    | none => rfl
    | some found => exact ih _ _

/-- The break at the end of a line, if there is one. -/
def lineEnd (p : Cursor) : List Char × Cursor :=
  match p.lineBreak with
  | some (c, next) => ([c], next)
  | none => ([], p)

/-- Reads a line of a block with the empty lines behind it; whether another line follows. -/
def blockLine (folded stopsAtMark : Bool) (indent fuel : Nat) (s : BlockState) :
    BlockState × Bool :=
  let opensWithText := s.cursor.head != ' ' && s.cursor.head != '\t'
  let (line, p) := s.cursor.span (!isLineEnd ·)
  let done := line.reverse ++ s.breaks.reverse ++ s.done
  let (lineBreak, p) := lineEnd p
  let (breaks, p) := blockBreaks indent fuel p []
  if stopsAtMark && p.column == 0 && p.atDocumentMark then
    (⟨done, lineBreak, breaks, p⟩, false)
  else if p.column == indent && !p.atEnd then
    let joined :=
      if folded && lineBreak == ['\n'] && opensWithText && p.head != ' ' && p.head != '\t' then
        if breaks.isEmpty then ' ' :: done else done
      else lineBreak ++ done
    (⟨joined, lineBreak, breaks, p⟩, true)
  else (⟨done, lineBreak, breaks, p⟩, false)

theorem blockLines_succ (folded stopsAtMark : Bool) (indent fuel : Nat) (s : BlockState) :
    blockLines folded stopsAtMark indent (fuel + 1) s =
      if s.cursor.column != indent || s.cursor.atEnd then s
      else
        let read := blockLine folded stopsAtMark indent fuel s
        if read.2 then blockLines folded stopsAtMark indent fuel read.1 else read.1 := by
  obtain ⟨ending, hEnding⟩ : ∃ ending, (s.cursor.span (!isLineEnd ·)).2.lineBreak = ending :=
    ⟨_, rfl⟩
  simp only [blockLines, blockLine, lineEnd, hEnding]
  cases ending <;> split_ifs <;> simp_all

@[simp] theorem lineEnd_moved : lineEnd (p.moved o) = movedRead o (lineEnd p) := by
  simp only [lineEnd, Cursor.lineBreak_moved]
  cases p.lineBreak <;> rfl

/-- A block with the cursor behind what is read of it moved. -/
def BlockState.moved (s : BlockState) : BlockState := { s with cursor := s.cursor.moved o }

@[simp] theorem BlockState.cursor_moved (s : BlockState) :
    (s.moved o).cursor = s.cursor.moved o := rfl

@[simp] theorem blockLine_moved (folded stopsAtMark : Bool) (indent fuel : Nat) (s : BlockState) :
    blockLine folded stopsAtMark indent fuel (s.moved o) =
      ((blockLine folded stopsAtMark indent fuel s).1.moved o,
        (blockLine folded stopsAtMark indent fuel s).2) := by
  simp only [blockLine, BlockState.moved, Cursor.head_moved, Cursor.span_moved, lineEnd_moved,
    movedRead, blockBreaks_moved, Cursor.column_moved, Cursor.atDocumentMark_moved,
    Cursor.atEnd_moved]
  split_ifs <;> rfl

@[simp] theorem blockLines_moved (folded stopsAtMark : Bool) (indent fuel : Nat) (s : BlockState) :
    blockLines folded stopsAtMark indent fuel (s.moved o) =
      (blockLines folded stopsAtMark indent fuel s).moved o := by
  induction fuel generalizing s with
  | zero => rfl
  | succ fuel ih =>
    simp only [blockLines_succ, blockLine_moved, ih, BlockState.cursor_moved, Cursor.column_moved,
      Cursor.atEnd_moved]
    split_ifs <;> rfl

/-- The indentation of a block, which its header or its first lines give, with the empty lines in
front of it. -/
def blockIndent (increment : Option Nat) (minimum fuel : Nat) (p : Cursor) :
    Option (List Char × Nat × Cursor) :=
  match increment with
  | none =>
    let (breaks, widest, first, p) := blockIndentation fuel p [] 0 none
    match first with
    | some n => if 0 < n && n < widest then none else some (breaks, max minimum widest, p)
    | none => some (breaks, max minimum widest, p)
  | some n =>
    let indent := max minimum 1 + n - 1
    let (breaks, p) := blockBreaks indent fuel p []
    some (breaks, indent, p)

/-- What is left of the breaks at the end of a block. -/
def blockEnd (chomping : Chomping) (s : BlockState) : List Char :=
  match chomping with
  | .strip => []
  | .clip => s.lineBreak
  | .keep => s.lineBreak ++ s.breaks

theorem block_eq (folded : Bool) (minimum fuel : Nat) :
    block folded minimum fuel p =
      (blockHeader p).bind fun (header, p) =>
        (blockIndent header.increment minimum fuel p).map fun (breaks, indent, p) =>
          let s := blockLines folded (minimum == 0) indent fuel ⟨[], [], breaks, p⟩
          (s.done.reverse ++ blockEnd header.chomping s, s.cursor) := by
  unfold block blockIndent
  rcases blockHeader p with _ | ⟨⟨chomping, _ | n⟩, q⟩
  · rfl
  · simp only [Option.bind_eq_bind, Option.bind_some]
    rcases blockIndentation fuel q [] 0 none with ⟨breaks, widest, _ | n, q⟩
    · rfl
    · simp only []
      split_ifs <;> rfl
  · rfl

@[simp] theorem blockIndent_moved (increment : Option Nat) (minimum fuel : Nat) :
    blockIndent increment minimum fuel (p.moved o) =
      (blockIndent increment minimum fuel p).map fun read =>
        (read.1, read.2.1, read.2.2.moved o) := by
  cases increment with
  | some n => simp [blockIndent, movedRead]
  | none =>
    simp only [blockIndent, blockIndentation_moved]
    rcases blockIndentation fuel p [] 0 none with ⟨breaks, widest, _ | n, q⟩
    · rfl
    · simp only []
      split_ifs <;> rfl

@[simp] theorem block_moved (folded : Bool) (minimum fuel : Nat) :
    block folded minimum fuel (p.moved o) = (block folded minimum fuel p).map (movedRead o) := by
  have hLines (indent : Nat) (breaks : List Char) (q : Cursor) :
      blockLines folded (minimum == 0) indent fuel ⟨[], [], breaks, q.moved o⟩ =
        (blockLines folded (minimum == 0) indent fuel ⟨[], [], breaks, q⟩).moved o :=
    blockLines_moved o folded _ indent fuel ⟨[], [], breaks, q⟩
  simp [block_eq, hLines, BlockState.moved, blockEnd, Option.bind_map, Option.map_bind,
    Function.comp_def, movedRead]

end ScalarText

end BuildSync.Yaml
