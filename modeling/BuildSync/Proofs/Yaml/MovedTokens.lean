import Mathlib.Data.List.InsertIdx
import BuildSync.Proofs.Yaml.Fuel

/-!
# Reading tokens at another place

The tokens of a text are the same wherever it stands, apart from the numbers of their lines.
-/

set_option autoImplicit false

namespace BuildSync.Yaml

variable (o : Origin)

def Token.moved (token : Token) : Token := { token with line := token.line + o.line }

@[simp] theorem Token.kind_moved (token : Token) : (token.moved o).kind = token.kind := rfl

def KeyCandidate.moved (key : KeyCandidate) : KeyCandidate :=
  { key with index := key.index + o.index, line := key.line + o.line }

@[simp] theorem KeyCandidate.required_moved (key : KeyCandidate) :
    (key.moved o).required = key.required := rfl

@[simp] theorem KeyCandidate.depth_moved (key : KeyCandidate) :
    (key.moved o).depth = key.depth := rfl

namespace Lexer

/-- The state of the lexer at another place, and with other fuel. -/
def moved (s : Lexer) : Lexer :=
  { s with
    cursor := s.cursor.moved o
    fuel := o.fuel
    tokens := s.tokens.map (Token.moved o)
    candidates := s.candidates.map (KeyCandidate.moved o) }

section

variable (s : Lexer)

@[simp] theorem cursor_moved : (s.moved o).cursor = s.cursor.moved o := rfl

@[simp] theorem fuel_moved : (s.moved o).fuel = o.fuel := rfl

@[simp] theorem flow_moved : (s.moved o).flow = s.flow := rfl

@[simp] theorem inFlow_moved : (s.moved o).inFlow = s.inFlow := rfl

@[simp] theorem oldRules_moved : (s.moved o).oldRules = s.oldRules := rfl

@[simp] theorem indent_moved : (s.moved o).indent = s.indent := rfl

@[simp] theorem minor_moved : (s.moved o).minor = s.minor := rfl

@[simp] theorem allowKey_moved : (s.moved o).allowKey = s.allowKey := rfl

@[simp] theorem done_moved : (s.moved o).done = s.done := rfl

@[simp] theorem push_moved (kind : TokenKind) : (s.moved o).push kind = (s.push kind).moved o := rfl

@[simp] theorem pushMark_moved (n : Nat) (kind : TokenKind) :
    (s.moved o).pushMark n kind = (s.pushMark n kind).moved o := by
  simp only [pushMark, push_moved, cursor_moved, Cursor.skip_moved]
  rfl

@[simp] theorem insert_moved (position line : Nat) (kind : TokenKind) :
    (s.moved o).insert position (line + o.line) kind = (s.insert position line kind).moved o := by
  simp only [insert, moved, List.map_insertIdx]
  rfl

@[simp] theorem isFresh_moved (p : Cursor) (key : KeyCandidate) :
    KeyCandidate.isFresh (p.moved o) (key.moved o) = KeyCandidate.isFresh p key := by
  have hLine : (key.line + o.line == p.line + o.line) = (key.line == p.line) :=
    Bool.eq_iff_iff.mpr (by simp)
  simp only [KeyCandidate.isFresh, KeyCandidate.moved, Cursor.line_moved, Cursor.index_moved, hLine,
    Nat.add_sub_add_right]

@[simp] theorem dropStale_moved : (s.moved o).dropStale = s.dropStale.map (moved o) := by
  simp only [dropStale, moved, List.any_map, List.filter_map, Function.comp_def, isFresh_moved,
    KeyCandidate.required_moved]
  split_ifs <;> rfl

@[simp] theorem dropCandidate_moved :
    (s.moved o).dropCandidate = s.dropCandidate.map (moved o) := by
  simp only [dropCandidate, moved, List.any_map, List.filter_map, Function.comp_def,
    KeyCandidate.required_moved, KeyCandidate.depth_moved]
  split_ifs <;> rfl

/-- Neither the cursor nor the fuel of the lexer has changed. -/
structure Stays (s s' : Lexer) : Prop where
  cursor : s'.cursor = s.cursor
  fuel : s'.fuel = s.fuel

/-- The lexer has read a character at least. -/
structure Advances (s s' : Lexer) : Prop where
  past : s'.cursor.Past s.cursor
  fuel : s'.fuel = s.fuel

/-- The fuel that the lexer has suffices, and so does the fuel that it is given elsewhere. -/
structure Fueled (s : Lexer) : Prop where
  own : s.cursor.Fits s.fuel
  other : s.cursor.Fits o.fuel

section

variable {o : Origin} {s s' s'' : Lexer}

theorem Stays.refl (s : Lexer) : s.Stays s := ⟨rfl, rfl⟩

theorem Stays.trans (h : s.Stays s') (h' : s'.Stays s'') : s.Stays s'' :=
  ⟨h'.cursor.trans h.cursor, h'.fuel.trans h.fuel⟩

theorem Stays.advances (h : s.Stays s') (h' : s'.Advances s'') : s.Advances s'' :=
  ⟨h.cursor ▸ h'.past, h'.fuel.trans h.fuel⟩

theorem Fueled.of_behind (h : s.Fueled o) (hBehind : s'.cursor.Behind s.cursor)
    (hFuel : s'.fuel = s.fuel) : s'.Fueled o :=
  ⟨hFuel ▸ h.own.of_behind hBehind, h.other.of_behind hBehind⟩

theorem Fueled.of_stays (h : s.Fueled o) (hStays : s.Stays s') : s'.Fueled o :=
  h.of_behind (hStays.cursor ▸ Cursor.Behind.refl _) hStays.fuel

theorem stays_dropStale (h : s.dropStale = some s') : s.Stays s' := by
  unfold dropStale at h
  split_ifs at h
  cases h
  exact ⟨rfl, rfl⟩

theorem dropCandidate_eq_some (h : s.dropCandidate = some s') :
    ∃ keys, s' = { s with candidates := keys } := by
  unfold dropCandidate at h
  split_ifs at h
  cases h
  exact ⟨_, rfl⟩

theorem saveCandidate_eq_some (h : s.saveCandidate = some s') :
    ∃ keys, s' = { s with candidates := keys } := by
  unfold saveCandidate at h
  split_ifs at h
  · obtain ⟨dropped, hDrop, hSaved⟩ := Option.bind_eq_some_iff.mp h
    obtain ⟨keys, rfl⟩ := dropCandidate_eq_some hDrop
    cases hSaved
    exact ⟨_, rfl⟩
  · cases h
    exact ⟨_, rfl⟩

theorem stays_dropCandidate (h : s.dropCandidate = some s') : s.Stays s' := by
  obtain ⟨keys, rfl⟩ := dropCandidate_eq_some h
  exact ⟨rfl, rfl⟩

theorem stays_saveCandidate (h : s.saveCandidate = some s') : s.Stays s' := by
  obtain ⟨keys, rfl⟩ := saveCandidate_eq_some h
  exact ⟨rfl, rfl⟩

theorem stays_closeBlocks (s : Lexer) (column : Int) (outer : List Int) :
    s.Stays (s.closeBlocks column outer) := by
  induction outer generalizing s with
  | nil =>
    unfold closeBlocks
    split_ifs <;> exact ⟨rfl, rfl⟩
  | cons around outer ih =>
    unfold closeBlocks
    split_ifs
    · have hPush : s.Stays { s.push .blockEnd with indent := around, outer := outer } := ⟨rfl, rfl⟩
      exact hPush.trans (ih _)
    · exact Stays.refl s

theorem stays_unwind (s : Lexer) (column : Int) : s.Stays (s.unwind column) := by
  unfold unwind
  split_ifs
  · exact Stays.refl s
  · exact stays_closeBlocks s column s.outer

theorem stays_startBlock (s : Lexer) (kind : TokenKind) : s.Stays (s.startBlock kind) := by
  unfold startBlock openBlock
  split_ifs <;> exact ⟨rfl, rfl⟩

end

theorem allowing_moved (allowKey : Bool) :
    { s.moved o with allowKey := allowKey } = moved o { s with allowKey := allowKey } := rfl

@[simp] theorem saveCandidate_moved :
    (s.moved o).saveCandidate = s.saveCandidate.map (moved o) := by
  simp only [saveCandidate, allowKey_moved, dropCandidate_moved]
  split_ifs
  · cases s.dropCandidate <;> rfl
  · rfl

@[simp] theorem closeBlocks_moved (column : Int) (outer : List Int) :
    (s.moved o).closeBlocks column outer = (s.closeBlocks column outer).moved o := by
  induction outer generalizing s with
  | nil =>
    by_cases h : s.indent > column <;> simp only [closeBlocks, indent_moved, h, if_true, if_false]
    rfl
  | cons around outer ih =>
    by_cases h : s.indent > column <;> simp only [closeBlocks, indent_moved, h, if_true, if_false]
    exact ih { s.push .blockEnd with indent := around, outer := outer }

@[simp] theorem unwind_moved (column : Int) :
    (s.moved o).unwind column = (s.unwind column).moved o := by
  by_cases h : s.inFlow <;> simp only [unwind, inFlow_moved, h, if_true]
  exact closeBlocks_moved o s column s.outer

@[simp] theorem openBlock_moved (column : Nat) :
    (s.moved o).openBlock column = (s.openBlock column).map (moved o) := by
  by_cases h : s.indent < column <;> simp only [openBlock, indent_moved, h, if_true, if_false]
  · rfl
  · rfl

theorem skipToToken_succ (fuel : Nat) :
    skipToToken (fuel + 1) s =
      let p := (s.cursor.skipWhile fun c => c == ' ' || (s.inFlow && c == '\t')).skipComment
      match p.lineBreak with
      | some (_, p) =>
        skipToToken fuel { s with cursor := p, allowKey := s.allowKey || !s.inFlow }
      | none => { s with cursor := p } := rfl

@[simp] theorem skipToToken_moved (fuel : Nat) :
    skipToToken fuel (s.moved o) = (skipToToken fuel s).moved o := by
  induction fuel generalizing s with
  | zero => rfl
  | succ fuel ih =>
    simp only [skipToToken_succ, cursor_moved, inFlow_moved, Cursor.skipWhile_moved,
      Cursor.skipComment_moved, Cursor.lineBreak_moved]
    cases (s.cursor.skipWhile fun c =>
      c == ' ' || (s.inFlow && c == '\t')).skipComment.lineBreak with
    | none => rfl
    | some found =>
      exact ih { s with cursor := found.2, allowKey := s.allowKey || !s.inFlow }

end

section

variable (p : Cursor)

@[simp] theorem number_moved : number (p.moved o) = (number p).map (movedRead o) := by
  simp only [number, Cursor.span_moved]
  split_ifs <;> rfl

@[simp] theorem tagHandle_moved : tagHandle (p.moved o) = (tagHandle p).map (movedRead o) := by
  simp only [tagHandle, Cursor.head_moved, Cursor.peek_moved, Cursor.next_moved, Cursor.span_moved]
  split_ifs <;> rfl

@[simp] theorem uriEscapes_moved (fuel : Nat) (done : List UInt8) :
    uriEscapes fuel (p.moved o) done = (uriEscapes fuel p done).map (movedRead o) := by
  induction fuel generalizing p done with
  | zero => rfl
  | succ fuel ih =>
    simp only [uriEscapes, Cursor.head_moved, Cursor.peek_moved, Cursor.skip_moved, ih]
    split_ifs
    · cases ScalarText.hexValue (p.peek 1) with
      | none => rfl
      | some high => cases ScalarText.hexValue (p.peek 2) <;> rfl
    · rfl

@[simp] theorem uriChars_moved (oldRules : Bool) (fuel : Nat) (done : List Char) :
    uriChars oldRules fuel (p.moved o) done =
      (uriChars oldRules fuel p done).map (movedRead o) := by
  induction fuel generalizing p done with
  | zero => rfl
  | succ fuel ih =>
    simp only [uriChars, Cursor.head_moved, Cursor.next_moved, uriEscapes_moved, ih]
    split_ifs
    · simp [Option.bind_map, Option.map_bind, Function.comp_def, movedRead, ih]
    · rfl
    · rfl

@[simp] theorem tagUri_moved (oldRules : Bool) :
    tagUri oldRules (p.moved o) = (tagUri oldRules p).map (movedRead o) := by
  simp only [tagUri, Cursor.rest_moved, uriChars_moved]
  cases uriChars oldRules (p.rest.length + 1) p [] with
  | none => rfl
  | some read =>
    simp only [Option.map_some, Option.bind_eq_bind, Option.bind_some, movedRead]
    split_ifs <;> rfl

/-- A tag behind the exclamation mark of its handle. -/
def tagBehind (oldRules : Bool) (short : String) (p : Cursor) : Option (WrittenTag × Cursor) :=
  let c := p.peek 1
  if c == '<' then do
    let (suffix, p) ← tagUri oldRules (p.skip 2)
    if p.head == '>' then some (⟨none, suffix⟩, p.next) else none
  else if endsWord c then some (⟨none, "!"⟩, p.next)
  else if hasHandle (p.rest.drop 1) then do
    let (handle, p) ← tagHandle p
    let (suffix, p) ← tagUri oldRules p
    some (⟨some handle, suffix⟩, p)
  else do
    let (suffix, p) ← tagUri oldRules p.next
    some (⟨some short, suffix⟩, p)

theorem writtenTag_eq (oldRules : Bool) :
    writtenTag oldRules p =
      if p.peek 1 == '!' then tagBehind oldRules "!!" p.next else tagBehind oldRules "!" p := by
  unfold writtenTag tagBehind
  cases p.peek 1 == '!' <;> rfl

@[simp] theorem tagBehind_moved (oldRules : Bool) (short : String) :
    tagBehind oldRules short (p.moved o) = (tagBehind oldRules short p).map (movedRead o) := by
  simp only [tagBehind, Cursor.peek_moved, Cursor.rest_moved, Cursor.skip_moved, Cursor.next_moved,
    tagUri_moved, tagHandle_moved]
  split_ifs
  · cases tagUri oldRules (p.skip 2) with
    | none => rfl
    | some read =>
      simp only [Option.map_some, movedRead, Option.bind_eq_bind, Option.bind_some,
        Cursor.head_moved, Cursor.next_moved]
      split_ifs <;> rfl
  · rfl
  · simp [Option.bind_map, Option.map_bind, Function.comp_def, movedRead]
  · simp [Option.bind_map, Option.map_bind, Function.comp_def, movedRead]

@[simp] theorem writtenTag_moved (oldRules : Bool) :
    writtenTag oldRules (p.moved o) = (writtenTag oldRules p).map (movedRead o) := by
  simp only [writtenTag_eq, Cursor.peek_moved, Cursor.next_moved, tagBehind_moved]
  split_ifs <;> rfl

/-- The numbers of a version directive. -/
def versionField (p : Cursor) : Option ((Nat × Nat) × Cursor) := do
  let (major, p) ← number (p.skipWhile (· == ' '))
  if p.head != '.' then none
  else
    let (minor, p) ← number p.next
    if !endsField p.head then none else (endDirective p).map fun p => ((major, minor), p)

/-- The handle of a tag directive and what it stands for. -/
def tagField (oldRules : Bool) (p : Cursor) : Option ((String × String) × Cursor) := do
  let (handle, p) ← tagHandle (p.skipWhile (· == ' '))
  if p.head != ' ' then none
  else
    let (lead, p) ← tagUri oldRules (p.skipWhile (· == ' '))
    if !endsField p.head then none else (endDirective p).map fun p => ((handle, lead), p)

@[simp] theorem versionField_moved :
    versionField (p.moved o) = (versionField p).map (movedRead o) := by
  simp only [versionField, Cursor.skipWhile_moved, number_moved]
  rcases number (p.skipWhile (· == ' ')) with _ | ⟨major, p⟩
  · rfl
  simp only [Option.map_some, movedRead, Option.bind_eq_bind, Option.bind_some, Cursor.head_moved,
    Cursor.next_moved, number_moved]
  split_ifs
  · rfl
  rcases number p.next with _ | ⟨minor, p⟩
  · rfl
  simp only [Option.map_some, movedRead, Option.bind_some, Cursor.head_moved, endDirective_moved]
  split_ifs
  · rfl
  · simp [Function.comp_def, movedRead]

@[simp] theorem tagField_moved (oldRules : Bool) :
    tagField oldRules (p.moved o) = (tagField oldRules p).map (movedRead o) := by
  simp only [tagField, Cursor.skipWhile_moved, tagHandle_moved]
  rcases tagHandle (p.skipWhile (· == ' ')) with _ | ⟨handle, p⟩
  · rfl
  simp only [Option.map_some, movedRead, Option.bind_eq_bind, Option.bind_some, Cursor.head_moved,
    Cursor.skipWhile_moved, tagUri_moved]
  split_ifs
  · rfl
  rcases tagUri oldRules (p.skipWhile (· == ' ')) with _ | ⟨lead, p⟩
  · rfl
  simp only [Option.map_some, movedRead, Option.bind_some, Cursor.head_moved, endDirective_moved]
  split_ifs
  · rfl
  · simp [Function.comp_def, movedRead]

end

section

variable (s : Lexer)

/-- Reads a directive behind its mark: its token, the minor version in force behind it, and the
cursor behind its line. -/
def directiveBody (oldRules : Bool) (minor : Nat) (p : Cursor) :
    Option ((TokenKind × Nat) × Cursor) :=
  let (name, p) := p.span isDirectiveChar
  if name.isEmpty || !endsField p.head then none
  else if String.ofList name == "YAML" then
    (versionField p).map fun (version, p) => ((.versionDirective version.1 version.2, version.2), p)
  else if String.ofList name == "TAG" then
    (tagField oldRules p).map fun (field, p) => ((.tagDirective field.1 field.2, minor), p)
  else (endDirective (p.skipWhile (!isLineEnd ·))).map fun p => ((.otherDirective, minor), p)

@[simp] theorem directiveBody_moved (oldRules : Bool) (minor : Nat) (p : Cursor) :
    directiveBody oldRules minor (p.moved o) =
      (directiveBody oldRules minor p).map (movedRead o) := by
  simp only [directiveBody, Cursor.span_moved, Cursor.head_moved, Cursor.skipWhile_moved,
    versionField_moved, tagField_moved, endDirective_moved]
  split_ifs
  · rfl
  · simp [Function.comp_def, movedRead]
  · simp [Function.comp_def, movedRead]
  · simp [Function.comp_def, movedRead]

theorem directive_eq :
    s.directive = (s.unwind (-1)).dropCandidate.bind fun s =>
      (directiveBody s.oldRules s.minor s.cursor.next).map fun (read, p) =>
        { s.push read.1 with cursor := p, minor := read.2, allowKey := false } := by
  simp only [directive, directiveBody]
  rcases (s.unwind (-1)).dropCandidate with _ | s
  · rfl
  simp only [Option.bind_eq_bind, Option.bind_some]
  rcases s.cursor.next.span isDirectiveChar with ⟨name, p⟩
  split_ifs
  · rfl
  · rw [versionField]
    rcases number (p.skipWhile (· == ' ')) with _ | ⟨major, p⟩
    · rfl
    simp only [Option.bind_eq_bind, Option.bind_some]
    split_ifs
    · rfl
    rcases number p.next with _ | ⟨minor, p⟩
    · rfl
    simp only [Option.bind_some]
    split_ifs
    · rfl
    · cases endDirective p <;> rfl
  · rw [tagField]
    rcases tagHandle (p.skipWhile (· == ' ')) with _ | ⟨handle, p⟩
    · rfl
    simp only [Option.bind_eq_bind, Option.bind_some]
    split_ifs
    · rfl
    have hRules : Lexer.oldRules { s with allowKey := false } = s.oldRules := rfl
    rw [hRules]
    rcases tagUri s.oldRules (p.skipWhile (· == ' ')) with _ | ⟨lead, p⟩
    · rfl
    simp only [Option.bind_some]
    split_ifs
    · rfl
    · cases endDirective p <;> rfl
  · cases endDirective (p.skipWhile (!isLineEnd ·)) <;> rfl

@[simp] theorem directive_moved : (s.moved o).directive = s.directive.map (moved o) := by
  simp only [directive_eq, unwind_moved, dropCandidate_moved]
  rcases (s.unwind (-1)).dropCandidate with _ | s
  · rfl
  simp only [Option.map_some, Option.bind_some, cursor_moved, Cursor.next_moved, oldRules_moved,
    minor_moved, directiveBody_moved, Option.map_map]
  rfl

@[simp] theorem documentMark_moved (kind : TokenKind) :
    (s.moved o).documentMark kind = (s.documentMark kind).map (moved o) := by
  simp only [documentMark, unwind_moved, dropCandidate_moved]
  cases (s.unwind (-1)).dropCandidate with
  | none => rfl
  | some s => exact congrArg some (pushMark_moved o { s with allowKey := false } 3 kind)

@[simp] theorem openFlow_moved (flow : FlowKind) (kind : TokenKind) :
    (s.moved o).openFlow flow kind = (s.openFlow flow kind).map (moved o) := by
  simp only [openFlow, saveCandidate_moved]
  cases s.saveCandidate with
  | none => rfl
  | some s =>
    exact congrArg some (pushMark_moved o
      { s with flow := flow :: s.flow, depth := s.depth + 1, allowKey := true } 1 kind)

@[simp] theorem closeFlow_moved (kind : TokenKind) :
    (s.moved o).closeFlow kind = (s.closeFlow kind).map (moved o) := by
  simp only [closeFlow, dropCandidate_moved]
  cases s.dropCandidate with
  | none => rfl
  | some s =>
    exact congrArg some (pushMark_moved o
      { s with flow := s.flow.drop 1, depth := s.depth - 1, allowKey := false } 1 kind)

@[simp] theorem flowEntry_moved : (s.moved o).flowEntry = s.flowEntry.map (moved o) := by
  have hDrop := dropCandidate_moved o { s with allowKey := true }
  simp only [flowEntry, allowing_moved, hDrop]
  rcases dropCandidate _ with _ | s
  · rfl
  · exact congrArg some (pushMark_moved o s 1 .flowEntry)

@[simp] theorem startBlock_moved (kind : TokenKind) :
    (s.moved o).startBlock kind = (s.startBlock kind).moved o := by
  simp only [startBlock, cursor_moved, Cursor.column_moved, openBlock_moved]
  cases s.openBlock s.cursor.column <;> rfl

/-- Reads a mark that may open a block. -/
def blockMark (s : Lexer) (opened kind : TokenKind) (allowKey : Bool) : Option Lexer :=
  if !s.inFlow && !s.allowKey then none
  else
    let s := if s.inFlow then s else s.startBlock opened
    (dropCandidate { s with allowKey := allowKey }).bind fun s => some (s.pushMark 1 kind)

@[simp] theorem blockMark_moved (opened kind : TokenKind) (allowKey : Bool) :
    (s.moved o).blockMark opened kind allowKey =
      (s.blockMark opened kind allowKey).map (moved o) := by
  have hMark (s : Lexer) :
      ((dropCandidate { s.moved o with allowKey := allowKey }).bind fun s =>
          some (s.pushMark 1 kind)) =
        ((dropCandidate { s with allowKey := allowKey }).bind fun s =>
          some (s.pushMark 1 kind)).map (moved o) := by
    rw [allowing_moved, dropCandidate_moved]
    cases dropCandidate { s with allowKey := allowKey } <;> simp
  simp only [blockMark, inFlow_moved, allowKey_moved, startBlock_moved]
  split_ifs
  · rfl
  · exact hMark s
  · exact hMark (s.startBlock opened)

theorem blockEntry_eq : s.blockEntry = s.blockMark .blockSequenceStart .blockEntry true := by
  unfold blockEntry blockMark
  split_ifs <;> rfl

theorem inFlow_startBlock (kind : TokenKind) : (s.startBlock kind).inFlow = s.inFlow := by
  unfold startBlock openBlock
  split_ifs <;> rfl

theorem explicitKey_eq : s.explicitKey = s.blockMark .blockMappingStart .key (!s.inFlow) := by
  unfold explicitKey blockMark
  split_ifs
  · rfl
  · rfl
  · simp only [inFlow_startBlock]
    rfl

/-- Leaves out the candidates of the current depth. -/
def withoutCandidate (s : Lexer) : Lexer :=
  { s with candidates := s.candidates.filter fun k => k.depth != s.depth }

theorem withoutCandidate_moved : (s.moved o).withoutCandidate = s.withoutCandidate.moved o := by
  simp only [withoutCandidate, moved, List.filter_map, Function.comp_def, KeyCandidate.depth_moved]

theorem acceptKey_eq (key : KeyCandidate) :
    s.acceptKey key =
      let s := s.withoutCandidate.insert key.position key.line .key
      if s.inFlow then s
      else
        match s.openBlock key.column with
        | some opened => opened.insert key.position key.line .blockMappingStart
        | none => s := rfl

@[simp] theorem acceptKey_moved (key : KeyCandidate) :
    (s.moved o).acceptKey (key.moved o) = (s.acceptKey key).moved o := by
  have hInsert (s : Lexer) (kind : TokenKind) :
      (s.moved o).insert (key.moved o).position (key.moved o).line kind =
        (s.insert key.position key.line kind).moved o := insert_moved o s _ _ _
  have hColumn : (key.moved o).column = key.column := rfl
  simp only [acceptKey_eq, withoutCandidate_moved, hInsert, hColumn, inFlow_moved, openBlock_moved]
  generalize s.withoutCandidate.insert key.position key.line .key = s
  split_ifs
  · rfl
  · cases s.openBlock key.column with
    | none => rfl
    | some opened => exact hInsert opened _

theorem colon_eq :
    s.colon =
      match s.candidates.find? fun key => key.depth == s.depth with
      | some key => some ({ s.acceptKey key with allowKey := false }.pushMark 1 .value)
      | none => s.blockMark .blockMappingStart .value (!s.inFlow) := by
  unfold colon blockMark
  cases s.candidates.find? fun key => key.depth == s.depth with
  | some key => rfl
  | none =>
    dsimp only
    split_ifs
    · rfl
    · rfl
    · simp only [inFlow_startBlock]
      rfl

@[simp] theorem colon_moved : (s.moved o).colon = s.colon.map (moved o) := by
  have hFind : (s.moved o).candidates.find? (fun key => key.depth == (s.moved o).depth) =
      (s.candidates.find? fun key => key.depth == s.depth).map (KeyCandidate.moved o) := by
    simp only [moved, List.find?_map, Function.comp_def, KeyCandidate.depth_moved]
  rw [colon_eq, hFind, colon_eq]
  cases s.candidates.find? fun key => key.depth == s.depth with
  | none => exact blockMark_moved o s _ _ _
  | some key =>
    simp only [Option.map_some, acceptKey_moved, allowing_moved, pushMark_moved]

/-- Puts a token behind the others and goes on at a cursor. -/
def pushTo (s : Lexer) (kind : TokenKind) (p : Cursor) (allowKey : Bool) : Lexer :=
  { s.push kind with cursor := p, allowKey := allowKey }

@[simp] theorem pushTo_moved (kind : TokenKind) (p : Cursor) (allowKey : Bool) :
    (s.moved o).pushTo kind (p.moved o) allowKey = (s.pushTo kind p allowKey).moved o := rfl

theorem name_eq (kind : String → TokenKind) :
    s.name kind = s.saveCandidate.bind fun s =>
      let (name, p) := s.cursor.next.span isAnchorChar
      if name.isEmpty || !endsName p.head then none
      else some (s.pushTo (kind (String.ofList name)) p false) := rfl

theorem tag_eq :
    s.tag = s.saveCandidate.bind fun s =>
      (writtenTag s.oldRules s.cursor).bind fun (written, p) =>
        if endsField p.head then some (s.pushTo (.tag written) p false) else none := rfl

theorem blockScalar_eq (folded : Bool) :
    s.blockScalar folded = (dropCandidate { s with allowKey := true }).bind fun s =>
      (ScalarText.block folded (s.indent + 1).toNat s.fuel s.cursor.next).bind fun (text, p) =>
        some (s.pushTo (.scalar (text.map Char.toNat) false) p s.allowKey) := rfl

/-- The text of a quoted scalar behind its quote, as code points. -/
def quotedText (isDouble : Bool) (fuel : Nat) (p : Cursor) : Option (List Nat × Cursor) :=
  if isDouble then ScalarText.double fuel p []
  else (ScalarText.single fuel p []).map fun (text, p) => (text.map Char.toNat, p)

theorem quotedScalar_eq (isDouble : Bool) :
    s.quotedScalar isDouble = s.saveCandidate.bind fun s =>
      (quotedText isDouble s.fuel s.cursor.next).bind fun (codes, p) =>
        some (s.pushTo (.scalar codes false) p false) := by
  cases isDouble <;> rfl

/-- The text of a plain scalar at the cursor. -/
def plainText (s : Lexer) : ScalarText.PlainText :=
  ScalarText.plain ⟨s.inFlow, s.oldRules⟩ (s.indent + 1).toNat s.fuel s.cursor [] [] false

theorem plainScalar_eq :
    s.plainScalar = s.saveCandidate.bind fun s =>
      let read := s.plainText
      some (s.pushTo (.scalar (read.text.map Char.toNat) true) read.cursor read.broke) := rfl

@[simp] theorem name_moved (kind : String → TokenKind) :
    (s.moved o).name kind = (s.name kind).map (moved o) := by
  simp only [name_eq, saveCandidate_moved]
  rcases s.saveCandidate with _ | s
  · rfl
  simp only [Option.map_some, Option.bind_some, cursor_moved, Cursor.next_moved,
    Cursor.span_moved, Cursor.head_moved, pushTo_moved]
  split_ifs <;> rfl

@[simp] theorem tag_moved : (s.moved o).tag = s.tag.map (moved o) := by
  simp only [tag_eq, saveCandidate_moved]
  rcases s.saveCandidate with _ | s
  · rfl
  simp only [Option.map_some, Option.bind_some, cursor_moved, oldRules_moved, writtenTag_moved]
  rcases writtenTag s.oldRules s.cursor with _ | ⟨written, p⟩
  · rfl
  by_cases h : endsField p.head <;>
    simp [movedRead, h]

@[simp] theorem quotedText_moved (isDouble : Bool) (fuel : Nat) (p : Cursor) :
    quotedText isDouble fuel (p.moved o) = (quotedText isDouble fuel p).map (movedRead o) := by
  cases isDouble <;> simp [quotedText, Function.comp_def, movedRead]

theorem quotedText_fuel {p : Cursor} {n m : Nat} (hn : p.Fits n) (hm : p.Fits m)
    (isDouble : Bool) : quotedText isDouble n p = quotedText isDouble m p := by
  simp only [quotedText, ScalarText.double_fuel hn hm, ScalarText.single_fuel hn hm]

theorem blockScalar_moved (h : s.Fueled o) (folded : Bool) :
    (s.moved o).blockScalar folded = (s.blockScalar folded).map (moved o) := by
  simp only [blockScalar_eq, allowing_moved, dropCandidate_moved]
  cases hDrop : dropCandidate { s with allowKey := true } with
  | none => rfl
  | some next =>
    have hAllowed : s.Stays { s with allowKey := true } := ⟨rfl, rfl⟩
    have hNext := h.of_stays (hAllowed.trans (stays_dropCandidate hDrop))
    have hBlock := ScalarText.block_fuel (hNext.other.of_behind Cursor.behind_next)
      (hNext.own.of_behind Cursor.behind_next) folded (next.indent + 1).toNat
    simp only [Option.map_some, Option.bind_some, cursor_moved, indent_moved, fuel_moved,
      Cursor.next_moved, ScalarText.block_moved, hBlock]
    rcases ScalarText.block folded (next.indent + 1).toNat next.fuel next.cursor.next with
      _ | ⟨text, p⟩ <;> rfl

theorem quotedScalar_moved (h : s.Fueled o) (isDouble : Bool) :
    (s.moved o).quotedScalar isDouble = (s.quotedScalar isDouble).map (moved o) := by
  simp only [quotedScalar_eq, saveCandidate_moved]
  cases hSave : s.saveCandidate with
  | none => rfl
  | some next =>
    have hNext := h.of_stays (stays_saveCandidate hSave)
    have hText := quotedText_fuel (hNext.other.of_behind Cursor.behind_next)
      (hNext.own.of_behind Cursor.behind_next) isDouble
    simp only [Option.map_some, Option.bind_some, cursor_moved, fuel_moved, Cursor.next_moved,
      quotedText_moved, hText]
    rcases quotedText isDouble next.fuel next.cursor.next with _ | ⟨codes, p⟩ <;> rfl

theorem plainText_moved (h : s.Fueled o) : (s.moved o).plainText = s.plainText.moved o := by
  unfold plainText
  rw [cursor_moved, ScalarText.plain_moved, fuel_moved,
    ScalarText.plain_fuel _ _ h.other h.own]
  rfl

theorem plainScalar_moved (h : s.Fueled o) :
    (s.moved o).plainScalar = s.plainScalar.map (moved o) := by
  simp only [plainScalar_eq, saveCandidate_moved]
  cases hSave : s.saveCandidate with
  | none => rfl
  | some next =>
    simp only [Option.map_some, Option.bind_some,
      plainText_moved o next (h.of_stays (stays_saveCandidate hSave))]
    rfl

@[simp] theorem isColon_moved (unread : Bool) : (s.moved o).isColon unread = s.isColon unread := by
  have hTokens : (s.moved o).tokens = s.tokens.map (Token.moved o) := rfl
  simp only [isColon, cursor_moved, Cursor.peek_moved, flow_moved, oldRules_moved, hTokens]
  rcases s.tokens with _ | ⟨⟨kind, line⟩, rest⟩
  · rfl
  · cases kind <;> rfl

@[simp] theorem startsPlain_moved : (s.moved o).startsPlain = s.startsPlain := rfl

/-- Reads the token at the cursor, where the structure in front of it is read. -/
def readToken (s : Lexer) (unread : Bool) : Option Lexer :=
  let p := s.cursor
  let c := p.head
  if p.atEnd then
    (s.unwind (-1)).dropCandidate.bind fun s =>
      some { s.push .streamEnd with allowKey := false, candidates := [], done := true }
  else if c == '%' && p.column == 0 then s.directive
  else if p.column == 0 && p.marks '-' then s.documentMark .documentStart
  else if p.column == 0 && p.marks '.' then s.documentMark .documentEnd
  else if c == '[' then s.openFlow .sequence .flowSequenceStart
  else if c == '{' then s.openFlow .mapping .flowMappingStart
  else if c == ']' then s.closeFlow .flowSequenceEnd
  else if c == '}' then s.closeFlow .flowMappingEnd
  else if c == ',' then s.flowEntry
  else if c == '-' && endsWord (p.peek 1) then s.blockEntry
  else if c == '?' && (s.inFlow || endsWord (p.peek 1)) then s.explicitKey
  else if c == ':' && s.isColon unread then s.colon
  else if c == '*' then s.name .alias
  else if c == '&' then s.name .anchor
  else if c == '!' then s.tag
  else if c == '|' && !s.inFlow then s.blockScalar false
  else if c == '>' && !s.inFlow then s.blockScalar true
  else if c == '\'' then s.quotedScalar false
  else if c == '"' then s.quotedScalar true
  else if s.startsPlain then s.plainScalar
  else none

theorem step_eq :
    s.step = s.dropStale.bind fun fresh =>
      (skipToToken fresh.fuel fresh).dropStale.bind fun s =>
        (s.unwind s.cursor.column).readToken (!fresh.candidates.isEmpty) := by rfl

theorem blockEntry_moved : (s.moved o).blockEntry = s.blockEntry.map (moved o) := by
  simp only [blockEntry_eq, blockMark_moved]

theorem explicitKey_moved : (s.moved o).explicitKey = s.explicitKey.map (moved o) := by
  simp only [explicitKey_eq, inFlow_moved, blockMark_moved]

theorem ite_moved {c : Prop} [Decidable c] {a a' b b' : Option Lexer}
    (ha : a' = a.map (moved o)) (hb : b' = b.map (moved o)) :
    (if c then a' else b') = (if c then a else b).map (moved o) := by
  split_ifs <;> assumption

theorem readToken_moved (h : s.Fueled o) (unread : Bool) :
    (s.moved o).readToken unread = (s.readToken unread).map (moved o) := by
  have hEnd : ((s.moved o).unwind (-1)).dropCandidate.bind (fun s => some
        { s.push .streamEnd with allowKey := false, candidates := [], done := true }) =
      ((s.unwind (-1)).dropCandidate.bind fun s => some
        { s.push .streamEnd with allowKey := false, candidates := [], done := true }).map
          (moved o) := by
    rw [unwind_moved, dropCandidate_moved]
    cases (s.unwind (-1)).dropCandidate <;> rfl
  unfold readToken
  rw [isColon_moved]
  -- no guard looks at what is moved, so both sides take the same branch
  exact ite_moved o hEnd <| ite_moved o (directive_moved o s) <|
    ite_moved o (documentMark_moved o s _) <| ite_moved o (documentMark_moved o s _) <|
    ite_moved o (openFlow_moved o s _ _) <| ite_moved o (openFlow_moved o s _ _) <|
    ite_moved o (closeFlow_moved o s _) <| ite_moved o (closeFlow_moved o s _) <|
    ite_moved o (flowEntry_moved o s) <| ite_moved o (blockEntry_moved o s) <|
    ite_moved o (explicitKey_moved o s) <| ite_moved o (colon_moved o s) <|
    ite_moved o (name_moved o s _) <| ite_moved o (name_moved o s _) <|
    ite_moved o (tag_moved o s) <| ite_moved o (blockScalar_moved o s h _) <|
    ite_moved o (blockScalar_moved o s h _) <| ite_moved o (quotedScalar_moved o s h _) <|
    ite_moved o (quotedScalar_moved o s h _) <| ite_moved o (plainScalar_moved o s h) rfl

theorem behind_skipToToken (fuel : Nat) (s : Lexer) :
    (skipToToken fuel s).cursor.Behind s.cursor ∧ (skipToToken fuel s).fuel = s.fuel := by
  induction fuel generalizing s with
  | zero => exact ⟨Cursor.Behind.refl _, rfl⟩
  | succ fuel ih =>
    have hLine : (s.cursor.skipWhile fun c =>
        c == ' ' || (s.inFlow && c == '\t')).skipComment.Behind s.cursor :=
      Cursor.behind_skipComment.trans (Cursor.behind_skipWhile _)
    simp only [skipToToken_succ]
    cases hBreak : (s.cursor.skipWhile fun c =>
        c == ' ' || (s.inFlow && c == '\t')).skipComment.lineBreak with
    | none => exact ⟨hLine, rfl⟩
    | some next =>
      obtain ⟨hBehind, hFuel⟩ :=
        ih { s with cursor := next.2, allowKey := s.allowKey || !s.inFlow }
      exact ⟨hBehind.trans ((Cursor.past_lineBreak hBreak).behind.trans hLine), hFuel⟩

theorem skipToToken_fuel {s : Lexer} {n m : Nat} (hn : s.cursor.Fits n) (hm : s.cursor.Fits m) :
    skipToToken n s = skipToToken m s := by
  induction n generalizing m s with
  | zero => exact absurd hn Cursor.not_fits_zero
  | succ n ih =>
    cases m with
    | zero => exact absurd hm Cursor.not_fits_zero
    | succ m =>
      simp only [skipToToken_succ]
      cases hBreak : (s.cursor.skipWhile fun c =>
          c == ' ' || (s.inFlow && c == '\t')).skipComment.lineBreak with
      | none => rfl
      | some next =>
        have hPast : next.2.Past s.cursor :=
          (Cursor.behind_skipComment.trans (Cursor.behind_skipWhile _)).past
            (Cursor.past_lineBreak hBreak)
        exact ih (hn.of_past hPast) (hm.of_past hPast)

theorem step_moved (h : s.Fueled o) : (s.moved o).step = s.step.map (moved o) := by
  simp only [step_eq, dropStale_moved]
  cases hFresh : s.dropStale with
  | none => rfl
  | some fresh =>
    have hFueled := h.of_stays (stays_dropStale hFresh)
    obtain ⟨hBehind, hFuel⟩ := behind_skipToToken fresh.fuel fresh
    simp only [Option.map_some, Option.bind_some, fuel_moved, skipToToken_moved, dropStale_moved,
      skipToToken_fuel hFueled.other hFueled.own]
    cases hNext : (skipToToken fresh.fuel fresh).dropStale with
    | none => rfl
    | some next =>
      have hToken := ((hFueled.of_behind hBehind hFuel).of_stays (stays_dropStale hNext)).of_stays
        (stays_unwind next next.cursor.column)
      have hCandidates : (fresh.moved o).candidates.isEmpty = fresh.candidates.isEmpty := by
        simp [moved]
      simp only [Option.map_some, Option.bind_some, cursor_moved, Cursor.column_moved,
        unwind_moved, hCandidates, readToken_moved o _ hToken]

end

end Lexer

end BuildSync.Yaml
