import BuildSync.Value
import BuildSync.Yaml.Plain

/-!
# Writing block style

A map is written with its keys in order, one to a line; a list with a dash for each item. A scalar
is plain where it reads back as itself, and quoted otherwise. Lines are folded at eighty columns.
What is written must be plain: scalars, lists and maps.
-/

set_option autoImplicit false

namespace BuildSync.Yaml

def width : Nat := 80

def step : Nat := 2

def maxSimpleKey : Nat := 122

inductive Quoting
  | plain
  | single
  | double
  deriving DecidableEq, Repr

def isWritableCode (n : Nat) : Bool :=
  (0x20 ≤ n && n ≤ 0x7E) ||
    (n != 0xFEFF && ((0xA0 ≤ n && n ≤ 0xD7FF) || (0xE000 ≤ n && n ≤ 0xFFFD) || 0x10000 ≤ n))

def isWritable (c : Char) : Bool := isWritableCode c.toNat

def isBreak (c : Char) : Bool :=
  c == '\n' || c == '\x85' || c == '\u2028' || c == '\u2029'

def isIndicator (c : Char) : Bool :=
  ['#', ',', '[', ']', '{', '}', '&', '*', '!', '|', '>', '\'', '"', '%', '@', '\x60'].contains c

/-- No colon in front of a blank or the end, and no number sign behind a blank. -/
def hasNoMark : List Char → Bool
  | [] => true
  | [c] => c != ':'
  | c :: d :: rest => !(c == ':' && d == ' ') && !(c == ' ' && d == '#') && hasNoMark (d :: rest)

def opensPlain : List Char → Bool
  | [] => false
  | c :: rest =>
    if c == '?' || c == ':' || c == '-' then
      match rest with
      | d :: _ => d != ' '
      | [] => false
    else c != ' ' && !isIndicator c

def startsDocument : List Char → Bool
  | '-' :: '-' :: '-' :: _ => true
  | '.' :: '.' :: '.' :: _ => true
  | _ => false

def canBePlain (s : String) : Bool :=
  let cs := s.toList
  opensPlain cs && cs.getLast? != some ' ' && cs.all (fun c => isWritable c && !isBreak c) &&
    !startsDocument cs && hasNoMark cs && plainTag .v12 s == .text

def hasBlankAtBreak : List Char → Bool
  | c :: d :: rest =>
    (c == ' ' && isBreak d) || (isBreak c && d == ' ') || hasBlankAtBreak (d :: rest)
  | _ => false

/-- The quotes that a text takes. The next line character counts as writable between single ones. -/
def quoting (s : String) : Quoting :=
  let cs := s.toList
  if canBePlain s then .plain
  else if cs.any fun c => c == '\'' || c == '\n' then .double
  else if cs.all (fun c => isWritable c || c == '\x85') && !hasBlankAtBreak cs then .single
  else .double

structure Page where
  written : List Char
  column : Nat

namespace Page

def put (page : Page) (cs : List Char) : Page :=
  ⟨cs.reverse ++ page.written, page.column + cs.length⟩

def blanks (page : Page) (n : Nat) : Page := page.put (List.replicate n ' ')

def newLine (page : Page) (indent : Nat) : Page := (Page.mk ('\n' :: page.written) 0).blanks indent

end Page

/-- A text as runs of blanks and words, each with whether it is one of blanks. -/
def runs : List Char → List (Bool × List Char)
  | [] => []
  | c :: rest =>
    let blank := c == ' '
    match runs rest with
    | (b, run) :: more =>
      if b == blank then (b, c :: run) :: more else (blank, [c]) :: (b, run) :: more
    | [] => [(blank, [c])]

/-- Writes a plain scalar. Where `fold`, a word that does not fit starts a new line, and a single
blank at the end of a full line becomes one. -/
def writePlain (fold : Bool) (indent : Nat) (page : Page) (cs : List Char) : Page :=
  (runs cs).foldl
    (fun page run =>
      if run.1 then
        if fold && run.2.length == 1 && width ≤ page.column then page.newLine indent
        else page.put run.2
      else if fold && width < page.column + run.2.length && indent < page.column then
        (page.newLine indent).put run.2
      else page.put run.2)
    page

/-- The runs of a single-quoted text: blanks, line separators, or other characters. -/
inductive QuotedRun
  | blanks (n : Nat)
  | breaks (cs : List Char)
  | word (cs : List Char)

def quotedRuns : List Char → List QuotedRun
  | [] => []
  | c :: rest =>
    match quotedRuns rest with
    | .blanks n :: more =>
      if c == ' ' then .blanks (n + 1) :: more else single c :: .blanks n :: more
    | .breaks cs :: more =>
      if isBreak c then .breaks (c :: cs) :: more else single c :: .breaks cs :: more
    | .word cs :: more =>
      if c == ' ' || isBreak c then single c :: .word cs :: more else .word (c :: cs) :: more
    | [] => [single c]
where
  /-- The run of one character. -/
  single (c : Char) : QuotedRun :=
    if c == ' ' then .blanks 1 else if isBreak c then .breaks [c] else .word [c]

/-- Writes the runs of a single-quoted text; `first` tells whether nothing stands in front. -/
def writeQuotedRuns (fold : Bool) (indent : Nat) : Bool → Page → List QuotedRun → Page
  | _, page, [] => page
  | first, page, .blanks n :: rest =>
    let page :=
      if fold && n == 1 && width < page.column && !first && !rest.isEmpty then page.newLine indent
      else page.blanks n
    writeQuotedRuns fold indent false page rest
  | _, page, .breaks cs :: rest =>
    let page := (Page.mk (cs.reverse ++ page.written) 0).blanks indent
    writeQuotedRuns fold indent false page rest
  | _, page, .word cs :: rest =>
    let doubled := cs.flatMap fun c => if c == '\'' then [c, c] else [c]
    writeQuotedRuns fold indent false (page.put doubled)
      rest

def writeSingle (fold : Bool) (indent : Nat) (page : Page) (cs : List Char) : Page :=
  (writeQuotedRuns fold indent true (page.put ['\'']) (quotedRuns cs)).put ['\'']

/-- The escapes of double-quoted text that have a letter of their own. -/
def letterEscapes : List (Nat × Char) :=
  [(0, '0'), (7, 'a'), (8, 'b'), (9, 't'), (10, 'n'), (11, 'v'), (12, 'f'), (13, 'r'), (0x1B, 'e'),
    (0x22, '"'), (0x5C, '\\'), (0x85, 'N'), (0x2028, 'L'), (0x2029, 'P')]

def upperHex (width n : Nat) : List Char :=
  (List.range width).reverse.map fun i => (Nat.digitChar (n / Nat.pow 16 i % 16)).toUpper

def escape (n : Nat) : List Char :=
  match letterEscapes.lookup n with
  | some letter => ['\\', letter]
  | none =>
    if n ≤ 0xFF then '\\' :: 'x' :: upperHex 2 n
    else if n ≤ 0xFFFF then '\\' :: 'u' :: upperHex 4 n
    else '\\' :: 'U' :: upperHex 8 n

def needsEscape (n : Nat) : Bool :=
  n == 0x22 || n == 0x5C || n == 0x2028 || n == 0x2029 || !isWritableCode n

def blankCode : Nat := ' '.toNat

def lineFeedCode : Nat := '\n'.toNat

/-- Whether a fold in front of `ahead` needs a backslash: unless the text up to the next blank has
no quote and no line feed, that blank has a character behind it which is no blank and no line feed,
and the fold does not stand between two blanks. -/
def foldNeedsBackslash (previous : Option Nat) (ahead : List Nat) : Bool :=
  let (chunk, rest) := ahead.span (· != blankCode)
  match rest with
  | _ :: after :: _ =>
    !(chunk.all (fun n => n != '"'.toNat && n != '\''.toNat && n != lineFeedCode) &&
      after != blankCode && after != lineFeedCode &&
      !(previous == some blankCode && ahead.head? == some blankCode))
  | _ => true

/-- Writes a double-quoted text, given by its code points, from a position on: `previous` is the one
in front of it, `pending` what is read but not written, backwards. Where `skip`, the next one is
left out. A line may be folded at a blank, or where nothing is pending. -/
def writeDoubleFrom (fold : Bool) (indent : Nat) :
    Option Nat → Bool → List Char → Page → List Nat → Page
  | _, _, pending, page, [] => page.put pending.reverse
  | previous, skip, pending, page, n :: rest =>
    let page := if needsEscape n then (page.put pending.reverse).put (escape n) else page
    let consumed := skip || needsEscape n
    let pending := if consumed then [] else pending
    let full := if consumed then width + 1 < page.column else width < page.column + pending.length
    if fold && previous.isSome && !rest.isEmpty && full && (n == blankCode || pending.isEmpty) then
      let needed := !consumed && pending.isEmpty || foldNeedsBackslash previous (n :: rest)
      let backslash := if needed then ['\\'] else []
      let page := ((page.put pending.reverse).put backslash).newLine indent
      if consumed then
        if rest.head? == some blankCode then
          writeDoubleFrom fold indent (some n) (!needed) [] (page.put backslash) rest
        else writeDoubleFrom fold indent (some n) false [] page rest
      else if n == blankCode then
        writeDoubleFrom fold indent (some n) false (if needed then [' '] else [])
          (page.put backslash) rest
      else writeDoubleFrom fold indent (some n) false [Char.ofNat n] page rest
    else
      let pending := if consumed then [] else Char.ofNat n :: pending
      writeDoubleFrom fold indent (some n) false pending page rest

def writeDouble (fold : Bool) (indent : Nat) (page : Page) (codes : List Nat) : Page :=
  (writeDoubleFrom fold indent none false [] (page.put ['"']) codes).put ['"']

def writeText (fold : Bool) (indent : Nat) (page : Page) (s : String) : Page :=
  match quoting s with
  | .plain => writePlain fold indent page s.toList
  | .single => writeSingle fold indent page s.toList
  | .double => writeDouble fold indent page (s.toList.map Char.toNat)

def plainForm : Scalar → String
  | .null => "null"
  | .bool b => if b then "true" else "false"
  | .double .notANumber => ".nan"
  | .double (.infinite negative) => if negative then "-.inf" else ".inf"
  | s => s.display

def writeScalar (indent : Nat) (page : Page) : Scalar → Page
  | .text s => writeText true indent page s
  | .brokenText codes => writeDouble true indent page codes
  | s => writePlain true indent page (plainForm s).toList

def isSimpleKey (key : String) : Bool :=
  key.length ≤ maxSimpleKey && !key.toList.any isBreak

/-- Writes a key with its colon: on one line with the value, or behind a question mark. -/
def writeKey (column : Nat) (page : Page) (key : String) : Page :=
  if isSimpleKey key then (writeText false (column + step) page key).put [':']
  else
    ((writeText true (column + step) (page.put ['?', ' ']) key).newLine column).put [':']

mutual

/-- Writes a value. A collection starts on a new line where it stands behind a key on one line with
it, a list then at the column of the key, and behind the dash or colon otherwise. -/
def writeValue (behindKey : Bool) (column : Nat) (page : Page) : Value → Page
  | .scalar s => writeScalar (column + step) (page.put [' ']) s
  | .list items =>
    if items.isEmpty then page.put [' ', '[', ']']
    else if behindKey then writeItems true column (page.newLine column) items
    else writeItems true (column + step) (page.put [' ']) items
  | .map entries =>
    if entries.isEmpty then page.put [' ', '{', '}']
    else if behindKey then writeEntries true (column + step) (page.newLine (column + step)) entries
    else writeEntries true (column + step) (page.put [' ']) entries
  | _ => page

/-- Writes the items of a list, each but the first on a new line. -/
def writeItems (first : Bool) (column : Nat) (page : Page) : List Value → Page
  | [] => page
  | v :: items =>
    let page := if first then page else page.newLine column
    writeItems false column (writeValue false column (page.put ['-']) v) items

/-- Writes the entries of a map, each but the first on a new line. -/
def writeEntries (first : Bool) (column : Nat) (page : Page) : List (Key × Value) → Page
  | [] => page
  | (k, v) :: entries =>
    let page := if first then page else page.newLine column
    let key := k.plainText
    writeEntries false column
      (writeValue (isSimpleKey key) column (writeKey column page key) v) entries

end

mutual

/-- A value with the entries of every map in order of their keys. -/
def sortKeys : Value → Value
  | .scalar s => .scalar s
  | .list items => .list (sortKeysItems items)
  | .map entries =>
    .map ((sortKeysEntries entries).mergeSort fun a b => !(b.1.plainText < a.1.plainText))
  | v => v

def sortKeysItems : List Value → List Value
  | [] => []
  | v :: items => sortKeys v :: sortKeysItems items

def sortKeysEntries : List (Key × Value) → List (Key × Value)
  | [] => []
  | (k, v) :: entries => (k, sortKeys v) :: sortKeysEntries entries

end

def write (entries : Entries) : String :=
  let page :=
    match sortKeys (.map entries) with
    | .map [] => (Page.mk [] 0).put ['{', '}']
    | .map entries => writeEntries true 0 ⟨[], 0⟩ entries
    | _ => ⟨[], 0⟩
  String.ofList ('\n' :: page.written).reverse

end BuildSync.Yaml
