import BuildSync.Proofs.Yaml.Run
import BuildSync.Yaml.Document

/-!
# Documents at another place

The lines that tokens stand on matter only next to one another: the tokens of a text that stands
further down in another one have the same value.
-/

set_option autoImplicit false

namespace BuildSync.Yaml

variable (o : Origin)

namespace Reader

def moved (r : Reader) : Reader := { r with tokens := r.tokens.map (Token.moved o) }

variable (r : Reader)

@[simp] theorem peek_moved : (r.moved o).peek = r.peek := by
  unfold peek moved
  cases r.tokens <;> rfl

@[simp] theorem advance_moved : (r.moved o).advance = r.advance.moved o := by
  simp only [advance, moved, List.map_drop]

@[simp] theorem anchors_moved : (r.moved o).anchors = r.anchors := rfl

@[simp] theorem graph_moved : (r.moved o).graph = r.graph := rfl

end Reader

/-- What a reader of tokens returns, with the tokens behind it moved. -/
def movedRest {α : Type} (read : α × Reader) : α × Reader := (read.1, read.2.moved o)

@[simp] theorem movedRest_mk {α : Type} (a : α) (r : Reader) :
    movedRest o (a, r) = (a, r.moved o) := rfl

namespace Reader

variable (r : Reader)

@[simp] theorem add_moved (anchor : Option String) (tag : Tag) (shape : Shape) :
    (r.moved o).add anchor tag shape = movedRest o (r.add anchor tag shape) := rfl

@[simp] theorem openCollection_moved (anchor : Option String) (tag : Tag) :
    (r.moved o).openCollection anchor tag = (r.openCollection anchor tag).map (movedRest o) := by
  unfold openCollection
  have hDepth : (r.moved o).depth = r.depth := rfl
  rw [hDepth]
  split_ifs <;> rfl

@[simp] theorem close_moved (id : NodeId) (shape : Shape) :
    (r.moved o).close id shape = movedRest o (r.close id shape) := rfl

end Reader

section

variable (d : Directives) (r : Reader)

@[simp] theorem readTag_moved : readTag d (r.moved o) = (readTag d r).map (movedRest o) := by
  unfold readTag
  rw [Reader.peek_moved, Reader.advance_moved]
  split
  · simp [Function.comp_def]
  · rfl

@[simp] theorem readAnchor_moved : readAnchor (r.moved o) = movedRest o (readAnchor r) := by
  unfold readAnchor
  rw [Reader.peek_moved, Reader.advance_moved]
  split <;> rfl

@[simp] theorem readProperties_moved :
    readProperties d (r.moved o) = (readProperties d r).map (movedRest o) := by
  unfold readProperties
  rw [readAnchor_moved]
  rcases readAnchor r with ⟨_ | anchor, next⟩
  · simp only [movedRest_mk, readTag_moved]
    rcases readTag d next with _ | ⟨_ | tag, rest⟩
    · rfl
    · rfl
    · simp only [Option.map_some, movedRest_mk, Option.bind_eq_bind, Option.bind_some,
        readAnchor_moved]
      rfl
  · simp [Function.comp_def, movedRest]

@[simp] theorem readScalar_moved (p : NodeProperties) (codes : List Nat) (plain : Bool) :
    readScalar d (r.moved o) p codes plain = (readScalar d r p codes plain).map (movedRest o) := by
  simp [readScalar, Function.comp_def]

@[simp] theorem emptyNode_moved :
    emptyNode? d (r.moved o) = (emptyNode? d r).map (movedRest o) := readScalar_moved o d r _ _ _

/-- With so much fuel, each reader of tokens reads the same at another place. -/
structure ReadsMoved (fuel : Nat) : Prop where
  node : ∀ place r, readNode d fuel place (r.moved o) = (readNode d fuel place r).map (movedRest o)
  nodeBefore : ∀ place ends r, readNodeBefore d fuel place ends (r.moved o) =
    (readNodeBefore d fuel place ends r).map (movedRest o)
  entryValue : ∀ place ends r, readEntryValue d fuel place ends (r.moved o) =
    (readEntryValue d fuel place ends r).map (movedRest o)
  entry : ∀ place ends r, readEntry d fuel place ends (r.moved o) =
    (readEntry d fuel place ends r).map (movedRest o)
  blockItems : ∀ r, readBlockItems d fuel (r.moved o) =
    (readBlockItems d fuel r).map (movedRest o)
  dashItems : ∀ r, readDashItems d fuel (r.moved o) = (readDashItems d fuel r).map (movedRest o)
  blockEntries : ∀ r, readBlockEntries d fuel (r.moved o) =
    (readBlockEntries d fuel r).map (movedRest o)
  flowItems : ∀ first r, readFlowItems d fuel first (r.moved o) =
    (readFlowItems d fuel first r).map (movedRest o)
  flowEntries : ∀ first r, readFlowEntries d fuel first (r.moved o) =
    (readFlowEntries d fuel first r).map (movedRest o)

namespace ReadsMoved

variable {o d} {fuel : Nat} (h : ReadsMoved o d fuel)

include h

theorem node_succ (place : Place) : readNode d (fuel + 1) place (r.moved o) =
    (readNode d (fuel + 1) place r).map (movedRest o) := by
  simp only [readNode, Reader.peek_moved, readProperties_moved]
  split
  · simp [Function.comp_def]
  rcases readProperties d r with _ | ⟨p, next⟩
  · rfl
  simp only [Option.map_some, movedRest_mk, Option.bind_eq_bind, Option.bind_some,
    Reader.peek_moved, Reader.advance_moved, Reader.openCollection_moved, readScalar_moved]
  split
  · rfl
  · simp [h.flowItems, Option.bind_map, Option.map_bind, Function.comp_def, movedRest]
  · simp [h.flowEntries, Option.bind_map, Option.map_bind, Function.comp_def, movedRest]
  · split_ifs
    · rfl
    · simp [h.blockItems, Option.bind_map, Option.map_bind, Function.comp_def, movedRest]
  · split_ifs
    · rfl
    · simp [h.blockEntries, Option.bind_map, Option.map_bind, Function.comp_def, movedRest]
  · split_ifs
    · simp [h.dashItems, Option.bind_map, Option.map_bind, Function.comp_def, movedRest]
    · rfl
    · rfl
  · split_ifs <;> rfl

theorem nodeBefore_succ (place : Place) (ends : List TokenKind) :
    readNodeBefore d (fuel + 1) place ends (r.moved o) =
      (readNodeBefore d (fuel + 1) place ends r).map (movedRest o) := by
  simp only [readNodeBefore, Reader.peek_moved, emptyNode_moved, h.node]
  split_ifs <;> rfl

theorem entryValue_succ (place : Place) (ends : List TokenKind) :
    readEntryValue d (fuel + 1) place ends (r.moved o) =
      (readEntryValue d (fuel + 1) place ends r).map (movedRest o) := by
  simp only [readEntryValue, Reader.peek_moved, emptyNode_moved, Reader.advance_moved, h.nodeBefore]
  split_ifs <;> rfl

theorem entry_succ (place : Place) (ends : List TokenKind) :
    readEntry d (fuel + 1) place ends (r.moved o) =
      (readEntry d (fuel + 1) place ends r).map (movedRest o) := by
  simp [readEntry, h.nodeBefore, h.entryValue, Option.bind_map, Option.map_bind, Function.comp_def,
    movedRest]

theorem blockItems_succ : readBlockItems d (fuel + 1) (r.moved o) =
    (readBlockItems d (fuel + 1) r).map (movedRest o) := by
  simp only [readBlockItems, Reader.peek_moved, Reader.advance_moved, h.nodeBefore]
  split
  · simp [h.blockItems, Option.bind_map, Option.map_bind, Function.comp_def, movedRest]
  · rfl
  · rfl

theorem dashItems_succ : readDashItems d (fuel + 1) (r.moved o) =
    (readDashItems d (fuel + 1) r).map (movedRest o) := by
  simp only [readDashItems, Reader.peek_moved, Reader.advance_moved, h.nodeBefore]
  split_ifs
  · simp [h.dashItems, Option.bind_map, Option.map_bind, Function.comp_def, movedRest]
  · rfl

theorem blockEntries_succ : readBlockEntries d (fuel + 1) (r.moved o) =
    (readBlockEntries d (fuel + 1) r).map (movedRest o) := by
  simp only [readBlockEntries, Reader.peek_moved, Reader.advance_moved, h.entry]
  split
  · rfl
  · simp [h.blockEntries, Option.bind_map, Option.map_bind, Function.comp_def, movedRest]
  · split_ifs
    · simp [h.blockEntries, Option.bind_map, Option.map_bind, Function.comp_def, movedRest]
    · rfl
  · rfl

theorem flowItems_succ (first : Bool) : readFlowItems d (fuel + 1) first (r.moved o) =
    (readFlowItems d (fuel + 1) first r).map (movedRest o) := by
  simp only [readFlowItems, Reader.peek_moved, Reader.advance_moved, ← apply_ite (Reader.moved o)]
  generalize (if first = true then r else r.advance) = next
  split_ifs
  · rfl
  · rfl
  split
  · rfl
  · simp [h.entry, h.flowItems, Option.bind_map, Option.map_bind, Function.comp_def, movedRest]
  · simp [h.node, h.flowItems, Option.bind_map, Option.map_bind, Function.comp_def, movedRest]

theorem flowEntries_succ (first : Bool) : readFlowEntries d (fuel + 1) first (r.moved o) =
    (readFlowEntries d (fuel + 1) first r).map (movedRest o) := by
  simp only [readFlowEntries, Reader.peek_moved, Reader.advance_moved, ← apply_ite (Reader.moved o)]
  generalize (if first = true then r else r.advance) = next
  split_ifs
  · rfl
  · rfl
  split
  · rfl
  · simp [h.entry, h.flowEntries, Option.bind_map, Option.map_bind, Function.comp_def, movedRest]
  · split_ifs
    · simp [h.entry, h.flowEntries, Option.bind_map, Option.map_bind, Function.comp_def, movedRest]
    · simp [h.node, h.flowEntries, Option.bind_map, Option.map_bind, Function.comp_def, movedRest]

end ReadsMoved

theorem readsMoved (fuel : Nat) : ReadsMoved o d fuel := by
  induction fuel with
  | zero =>
    constructor <;> intros <;> simp [readNode, readNodeBefore, readEntryValue, readEntry,
      readBlockItems, readDashItems, readBlockEntries, readFlowItems, readFlowEntries]
  | succ fuel ih =>
    exact {
      node := fun place r => ih.node_succ r place
      nodeBefore := fun place ends r => ih.nodeBefore_succ r place ends
      entryValue := fun place ends r => ih.entryValue_succ r place ends
      entry := fun place ends r => ih.entry_succ r place ends
      blockItems := ih.blockItems_succ
      dashItems := ih.dashItems_succ
      blockEntries := ih.blockEntries_succ
      flowItems := fun first r => ih.flowItems_succ r first
      flowEntries := fun first r => ih.flowEntries_succ r first }

end

theorem readDirectives_moved (tokens : List Token) (version : Option Nat)
    (handles : List (String × String)) :
    readDirectives (tokens.map (Token.moved o)) version handles =
      (readDirectives tokens version handles).map fun read =>
        (read.1, read.2.map (Token.moved o)) := by
  induction tokens generalizing version handles with
  | nil => rfl
  | cons token rest ih =>
    obtain ⟨kind, line⟩ := token
    cases kind with
    | versionDirective major minor =>
      simp only [List.map_cons, Token.moved, readDirectives]
      split_ifs
      · rfl
      · exact ih _ _
    | tagDirective handle lead =>
      simp only [List.map_cons, Token.moved, readDirectives]
      split_ifs
      · rfl
      · exact ih _ _
    | otherDirective => exact ih _ _
    | _ => rfl

theorem dropWhile_kind_moved (tokens : List Token) (kind : TokenKind) :
    ((tokens.map (Token.moved o)).dropWhile fun token => token.kind = kind).map Token.kind =
      (tokens.dropWhile fun token => token.kind = kind).map Token.kind := by
  rw [List.dropWhile_map, List.map_map]
  rfl

/-- A second document end may follow under the old rules, on a line of its own. -/
theorem endsDocument_of_more (d : Directives) (line : Nat) {next : Token} {more : List Token}
    (h : ¬(next.kind = .streamEnd ∧ more = [])) :
    endsDocument d (⟨.documentEnd, line⟩ :: next :: more) =
      (d.minor == 1 && next.line != line &&
        ((next :: more).dropWhile fun token => token.kind = .documentEnd).map Token.kind ==
          [.streamEnd]) := by
  simp only [endsDocument]
  split
  · rename_i hLast
    cases hLast
    exact absurd ⟨rfl, rfl⟩ h
  · rename_i hCons
    cases hCons
    rfl
  · rename_i hNil
    cases hNil

theorem endsDocument_moved (d : Directives) (tokens : List Token) :
    endsDocument d (tokens.map (Token.moved o)) = endsDocument d tokens := by
  rcases tokens with _ | ⟨⟨kind, line⟩, rest⟩
  · rfl
  cases kind with
  | streamEnd => cases rest <;> rfl
  | documentEnd =>
    rcases rest with _ | ⟨next, more⟩
    · rfl
    by_cases hLast : next.kind = .streamEnd ∧ more = []
    · obtain ⟨hKind, rfl⟩ := hLast
      obtain ⟨kind, nextLine⟩ := next
      cases hKind
      rfl
    · have hLastMoved : ¬((next.moved o).kind = .streamEnd ∧ more.map (Token.moved o) = []) := by
        rwa [Token.kind_moved, List.map_eq_nil_iff]
      have hLine : (next.line + o.line != line + o.line) = (next.line != line) :=
        Bool.eq_iff_iff.mpr (by simp)
      have hEnds := dropWhile_kind_moved o (next :: more) .documentEnd
      rw [endsDocument_of_more d line hLast, ← hLine, ← hEnds]
      exact endsDocument_of_more d (line + o.line) hLastMoved
  | _ => rfl

theorem readContent_moved (d : Directives) (tokens : List Token) :
    readContent d (tokens.map (Token.moved o)) = readContent d tokens := by
  have hNode := (readsMoved o d (6 * tokens.length + 6)).node .block (.start tokens)
  have hStart : Reader.start (tokens.map (Token.moved o)) = (Reader.start tokens).moved o := rfl
  have hTokens (r : Reader) : (r.moved o).tokens = r.tokens.map (Token.moved o) := rfl
  rw [readContent, List.length_map, hStart, hNode, readContent]
  cases readNode d (6 * tokens.length + 6) .block (.start tokens) with
  | none => rfl
  | some read =>
    simp only [Option.map_some, Option.bind_eq_bind, Option.bind_some, movedRest, hTokens,
      Reader.graph_moved, endsDocument_moved]

theorem readExplicit_moved (d : Directives) (tokens : List Token) :
    readExplicit d (tokens.map (Token.moved o)) = readExplicit d tokens := by
  have hStart : Reader.start (tokens.map (Token.moved o)) = (Reader.start tokens).moved o := rfl
  simp only [readExplicit, hStart, Reader.peek_moved, emptyNode_moved, endsDocument_moved,
    readContent_moved]
  simp [Option.bind_map, Function.comp_def, movedRest]

theorem bind_readDirectives_moved {f : Directives × List Token → Option Value}
    (h : ∀ read, f (read.1, read.2.map (Token.moved o)) = f read) (tokens : List Token) :
    (readDirectives (tokens.map (Token.moved o)) none []).bind f =
      (readDirectives tokens none []).bind f := by
  rw [readDirectives_moved, Option.bind_map]
  exact congrArg _ (funext h)

/-- A text has the same value wherever it stands. -/
theorem valueOfTokens_moved (tokens : List Token) :
    valueOfTokens (tokens.map (Token.moved o)) = valueOfTokens tokens := by
  have hContent := readContent_moved o .default tokens
  rcases tokens with _ | ⟨⟨kind, line⟩, rest⟩
  · rfl
  cases kind
  case streamEnd =>
    cases rest with
    | nil => rfl
    | cons next more => exact congrArg (fun read => read.bind Directives.default.value?) hContent
  case documentStart =>
    exact congrArg (fun read => read.bind Directives.default.value?)
      (readExplicit_moved o .default rest)
  case versionDirective | tagDirective | otherDirective =>
    refine bind_readDirectives_moved o (fun read => ?_) (_ :: rest)
    obtain ⟨d, _ | ⟨⟨kind, line⟩, rest⟩⟩ := read
    · rfl
    cases kind with
    | documentStart =>
      exact congrArg (fun read => read.bind d.value?) (readExplicit_moved o d rest)
    | _ => rfl
  all_goals exact congrArg (fun read => read.bind Directives.default.value?) hContent

end BuildSync.Yaml
