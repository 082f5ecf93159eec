import Mathlib.Tactic.SplitIfs
import BuildSync.Yaml.Writer

/-!
# The characters of a written document

Whatever a document holds, the characters that it is written with are line feeds and characters that
can be read: every other one is escaped. Only the next line character is also written as it is.
-/

set_option autoImplicit false

namespace BuildSync

/-- Texts, truth values, and lists and maps of these. -/
inductive Value.IsTextual : Value → Prop
  | text (s : String) : IsTextual (.text s)
  | bool (b : Bool) : IsTextual (.bool b)
  | list {items : List Value} (h : ∀ v ∈ items, v.IsTextual) : IsTextual (.list items)
  | map {entries : Entries} (h : ∀ e ∈ entries, e.2.IsTextual) : IsTextual (.map entries)

namespace Yaml

/-- The character may stand in a written document. -/
def IsWritten (c : Char) : Prop := isWritable c ∨ c = '\n' ∨ c = '\x85'

instance (c : Char) : Decidable (IsWritten c) :=
  inferInstanceAs (Decidable (isWritable c ∨ c = '\n' ∨ c = '\x85'))

def AllWritten (cs : List Char) : Prop := ∀ c ∈ cs, IsWritten c

instance (cs : List Char) : Decidable (AllWritten cs) := List.decidableBAll IsWritten cs

theorem allWritten_nil : AllWritten [] := List.forall_mem_nil _

theorem AllWritten.reverse {cs : List Char} (h : AllWritten cs) : AllWritten cs.reverse :=
  fun c hc => h c (List.mem_reverse.mp hc)

theorem AllWritten.ite {cs ds : List Char} (h : AllWritten cs) (h' : AllWritten ds) (b : Bool) :
    AllWritten (if b then cs else ds) := by
  cases b with
  | false => exact h'
  | true => exact h

namespace Page

def IsWritten (page : Page) : Prop := AllWritten page.written

variable {page : Page}

theorem IsWritten.put (h : page.IsWritten) {cs : List Char} (hcs : AllWritten cs) :
    (page.put cs).IsWritten := by
  intro c hc
  rcases List.mem_append.mp hc with hc | hc
  · exact hcs.reverse c hc
  · exact h c hc

theorem isWritten_replicate (n : Nat) : AllWritten (List.replicate n ' ') := by
  intro c hc
  rw [List.eq_of_mem_replicate hc]
  decide

theorem IsWritten.blanks (h : page.IsWritten) (n : Nat) : (page.blanks n).IsWritten :=
  h.put (isWritten_replicate n)

theorem IsWritten.newLine (h : page.IsWritten) (indent : Nat) :
    (page.newLine indent).IsWritten := by
  have hFeed : (Page.mk ('\n' :: page.written) 0).IsWritten := by
    intro c hc
    rcases List.mem_cons.mp hc with rfl | hc
    · decide
    · exact h c hc
  exact hFeed.blanks indent

end Page

section

variable {page : Page} {cs : List Char}

theorem flatMap_runs (cs : List Char) : (runs cs).flatMap Prod.snd = cs := by
  induction cs with
  | nil => rfl
  | cons c rest ih =>
    unfold runs
    dsimp only
    split
    · rename_i hRuns
      rw [hRuns] at ih
      split_ifs <;> simpa using ih
    · rename_i hRuns
      rw [hRuns] at ih
      simpa using ih

theorem isWritten_writePlain (fold : Bool) (indent : Nat) (h : page.IsWritten)
    (hcs : AllWritten cs) : (writePlain fold indent page cs).IsWritten := by
  have hRuns : ∀ run ∈ runs cs, AllWritten run.2 :=
    fun run hRun c hc =>
    hcs c (flatMap_runs cs ▸ List.mem_flatMap_of_mem hRun hc)
  unfold writePlain
  generalize runs cs = parts at hRuns
  induction parts generalizing page with
  | nil => exact h
  | cons part parts ih =>
    have hPart := hRuns part List.mem_cons_self
    refine ih ?_ fun run hRun => hRuns run (List.mem_cons_of_mem part hRun)
    dsimp only
    split_ifs
    · exact h.newLine indent
    · exact h.put hPart
    · exact (h.newLine indent).put hPart
    · exact h.put hPart

/-- The characters of a run of single-quoted text. -/
def QuotedRun.chars : QuotedRun → List Char
  | .blanks n => List.replicate n ' '
  | .breaks cs => cs
  | .word cs => cs

theorem chars_single (c : Char) : (quotedRuns.single c).chars = [c] := by
  unfold quotedRuns.single
  split_ifs with hBlank
  · rw [beq_iff_eq.mp hBlank]
    rfl
  · rfl
  · rfl

theorem flatMap_quotedRuns (cs : List Char) : (quotedRuns cs).flatMap QuotedRun.chars = cs := by
  induction cs with
  | nil => rfl
  | cons c rest ih =>
    unfold quotedRuns
    split <;> rename_i hRuns <;> rw [hRuns] at ih
    · split_ifs with hBlank
      · rw [beq_iff_eq.mp hBlank, ← ih]
        rfl
      · rw [List.flatMap_cons, chars_single, ih]
        rfl
    · split_ifs
      · rw [← ih]
        rfl
      · rw [List.flatMap_cons, chars_single, ih]
        rfl
    · split_ifs
      · rw [List.flatMap_cons, chars_single, ih]
        rfl
      · rw [← ih]
        rfl
    · rw [List.flatMap_cons, chars_single, ih]
      rfl

theorem isWritten_writeQuotedRuns (fold : Bool) (indent : Nat) (first : Bool) (h : page.IsWritten)
    {parts : List QuotedRun} (hParts : ∀ part ∈ parts, AllWritten part.chars) :
    (writeQuotedRuns fold indent first page parts).IsWritten := by
  induction parts generalizing first page with
  | nil => exact h
  | cons part parts ih =>
    have hPart := hParts part List.mem_cons_self
    have hMore := fun part' hPart' => hParts part' (List.mem_cons_of_mem part hPart')
    cases part with
    | blanks n =>
      refine ih _ ?_ hMore
      split_ifs
      · exact h.newLine indent
      · exact h.blanks n
    | breaks cs => exact ih _ (Page.IsWritten.blanks (h.put hPart) indent) hMore
    | word cs =>
      refine ih _ (h.put fun c hc => ?_) hMore
      obtain ⟨d, hd, hc⟩ := List.mem_flatMap.mp hc
      have hSame : c = d := by
        split_ifs at hc
        · simpa using hc
        · simpa using hc
      exact hSame ▸ hPart d hd

theorem isWritten_writeSingle (fold : Bool) (indent : Nat) (h : page.IsWritten)
    (hcs : AllWritten cs) : (writeSingle fold indent page cs).IsWritten := by
  have hQuote : AllWritten ['\''] := by decide
  have hRuns : ∀ part ∈ quotedRuns cs, AllWritten part.chars := fun part hPart c hc =>
    hcs c (flatMap_quotedRuns cs ▸ List.mem_flatMap_of_mem hPart hc)
  exact (isWritten_writeQuotedRuns fold indent true (h.put hQuote) hRuns).put hQuote

theorem isWritten_upperHex (width n : Nat) : AllWritten (upperHex width n) := by
  have hDigits : ∀ k < 16, IsWritten (Nat.digitChar k).toUpper := by decide
  intro c hc
  obtain ⟨i, _, rfl⟩ := List.mem_map.mp hc
  exact hDigits _ (Nat.mod_lt _ (by decide))

theorem isWritten_escape (n : Nat) : AllWritten (escape n) := by
  have hLetters : ∀ e ∈ letterEscapes, IsWritten e.2 := by decide
  have hBackslash : IsWritten '\\' := by decide
  have hHex {letter : Char} (hLetter : IsWritten letter) (width : Nat) :
      AllWritten ('\\' :: letter :: upperHex width n) :=
    List.forall_mem_cons.mpr
      ⟨hBackslash, List.forall_mem_cons.mpr ⟨hLetter, isWritten_upperHex width n⟩⟩
  unfold escape
  split
  · rename_i letter hLetter
    obtain ⟨before, behind, hTable, _⟩ := List.lookup_eq_some_iff.mp hLetter
    have hMem : (n, letter) ∈ letterEscapes := hTable ▸ List.mem_append_right _ List.mem_cons_self
    exact List.forall_mem_cons.mpr ⟨hBackslash, List.forall_mem_singleton.mpr (hLetters _ hMem)⟩
  · split_ifs
    · exact hHex (by decide) 2
    · exact hHex (by decide) 4
    · exact hHex (by decide) 8

theorem isWritten_ofNat {n : Nat} (hn : ∃ c : Char, c.toNat = n) (h : needsEscape n = false) :
    IsWritten (Char.ofNat n) := by
  obtain ⟨c, rfl⟩ := hn
  rw [Char.ofNat_toNat]
  refine Or.inl ?_
  simp only [needsEscape, Bool.or_eq_false_iff, Bool.not_eq_false'] at h
  exact h.2

theorem isWritten_writeDoubleFrom (fold : Bool) (indent : Nat) (previous : Option Nat)
    (skip : Bool) {pending : List Char} {codes : List Nat} (h : page.IsWritten)
    (hPending : AllWritten pending) (hCodes : ∀ n ∈ codes, ∃ c : Char, c.toNat = n) :
    (writeDoubleFrom fold indent previous skip pending page codes).IsWritten := by
  induction codes generalizing previous skip pending page with
  | nil => exact h.put hPending.reverse
  | cons n rest ih =>
    have hMore := fun m hm => hCodes m (List.mem_cons_of_mem n hm)
    have hPage : (if needsEscape n then (page.put pending.reverse).put (escape n)
        else page).IsWritten := by
      split_ifs
      · exact (h.put hPending.reverse).put (isWritten_escape n)
      · exact h
    have hLeft := allWritten_nil.ite hPending (skip || needsEscape n)
    have hBackslash := AllWritten.ite (by decide : AllWritten ['\\']) allWritten_nil
    have hBlank := AllWritten.ite (by decide : AllWritten [' ']) allWritten_nil
    rw [writeDoubleFrom]
    dsimp only
    generalize (if needsEscape n then (page.put pending.reverse).put (escape n) else page) = page'
      at hPage ⊢
    generalize (if skip || needsEscape n then [] else pending) = left at hLeft ⊢
    have hFolded (needed : Bool) :=
      ((hPage.put hLeft.reverse).put (hBackslash needed)).newLine indent
    cases hConsumed : skip || needsEscape n with
    | true =>
      simp only [if_true]
      split_ifs
      · exact ih _ _ ((hFolded true).put (hBackslash true)) allWritten_nil hMore
      · exact ih _ _ ((hFolded false).put (hBackslash false)) allWritten_nil hMore
      · exact ih _ _ (hFolded true) allWritten_nil hMore
      · exact ih _ _ (hFolded false) allWritten_nil hMore
      · exact ih _ _ hPage allWritten_nil hMore
    | false =>
      have hOwn : IsWritten (Char.ofNat n) :=
        isWritten_ofNat (hCodes n List.mem_cons_self) (Bool.or_eq_false_iff.mp hConsumed).2
      simp only [Bool.false_eq_true, if_false]
      split_ifs
      · exact ih _ _ ((hFolded true).put (hBackslash true)) (hBlank true) hMore
      · exact ih _ _ ((hFolded false).put (hBackslash false)) (hBlank false) hMore
      · exact ih _ _ (hFolded true) (List.forall_mem_singleton.mpr hOwn) hMore
      · exact ih _ _ (hFolded false) (List.forall_mem_singleton.mpr hOwn) hMore
      · exact ih _ _ hPage (List.forall_mem_cons.mpr ⟨hOwn, hLeft⟩) hMore

theorem isWritten_writeDouble (fold : Bool) (indent : Nat) (h : page.IsWritten) {codes : List Nat}
    (hCodes : ∀ n ∈ codes, ∃ c : Char, c.toNat = n) :
    (writeDouble fold indent page codes).IsWritten := by
  have hQuote : AllWritten ['"'] := by decide
  exact (isWritten_writeDoubleFrom fold indent none false (h.put hQuote)
    allWritten_nil hCodes).put hQuote

theorem isWritten_of_plain {s : String} (h : quoting s = .plain) : AllWritten s.toList := by
  have hPlain : canBePlain s = true := by
    unfold quoting at h
    dsimp only at h
    split_ifs at h with hPlain
    exact hPlain
  simp only [canBePlain, Bool.and_eq_true] at hPlain
  intro c hc
  exact Or.inl (Bool.and_eq_true_iff.mp (List.all_eq_true.mp hPlain.1.1.1.2 c hc)).1

theorem isWritten_of_single {s : String} (h : quoting s = .single) :
    AllWritten s.toList := by
  have hAll : s.toList.all (fun c => isWritable c || c == '\x85') = true := by
    unfold quoting at h
    dsimp only at h
    split_ifs at h with _ _ hAll
    exact (Bool.and_eq_true_iff.mp hAll).1
  intro c hc
  rcases Bool.or_eq_true_iff.mp (List.all_eq_true.mp hAll c hc) with hWritable | hNext
  · exact Or.inl hWritable
  · exact Or.inr (Or.inr (beq_iff_eq.mp hNext))

theorem isWritten_writeText (fold : Bool) (indent : Nat) (h : page.IsWritten) (s : String) :
    (writeText fold indent page s).IsWritten := by
  unfold writeText
  cases hQuoting : quoting s with
  | plain => exact isWritten_writePlain fold indent h (isWritten_of_plain hQuoting)
  | single => exact isWritten_writeSingle fold indent h (isWritten_of_single hQuoting)
  | double =>
    refine isWritten_writeDouble fold indent h fun n hn => ?_
    obtain ⟨c, _, rfl⟩ := List.mem_map.mp hn
    exact ⟨c, rfl⟩

theorem isWritten_writeKey (column : Nat) (h : page.IsWritten) (key : String) :
    (writeKey column page key).IsWritten := by
  have hColon : AllWritten [':'] := by decide
  have hMark : AllWritten ['?', ' '] := by decide
  unfold writeKey
  split_ifs
  · exact (isWritten_writeText _ _ h key).put hColon
  · exact ((isWritten_writeText _ _ (h.put hMark) key).newLine column).put hColon

end

section

variable {page : Page}

theorem isWritten_writeItems {items : List Value}
    (h : ∀ v ∈ items, ∀ behindKey column page, page.IsWritten →
      (writeValue behindKey column page v).IsWritten)
    (first : Bool) (column : Nat) (hPage : page.IsWritten) :
    (writeItems first column page items).IsWritten := by
  have hDash : AllWritten ['-'] := by decide
  induction items generalizing first page with
  | nil =>
    rw [writeItems]
    exact hPage
  | cons v items ih =>
    rw [writeItems]
    refine ih (fun v hv => h v (List.mem_cons_of_mem _ hv)) _
      (h v List.mem_cons_self _ _ _ (Page.IsWritten.put ?_ hDash))
    split_ifs
    · exact hPage
    · exact hPage.newLine column

theorem isWritten_writeEntries {entries : Entries}
    (h : ∀ e ∈ entries, ∀ behindKey column page, page.IsWritten →
      (writeValue behindKey column page e.2).IsWritten)
    (first : Bool) (column : Nat) (hPage : page.IsWritten) :
    (writeEntries first column page entries).IsWritten := by
  induction entries generalizing first page with
  | nil =>
    rw [writeEntries]
    exact hPage
  | cons e entries ih =>
    obtain ⟨key, v⟩ := e
    rw [writeEntries]
    refine ih (fun e he => h e (List.mem_cons_of_mem _ he)) _
      (h _ List.mem_cons_self _ _ _ (isWritten_writeKey column ?_ _))
    split_ifs
    · exact hPage
    · exact hPage.newLine column

theorem isWritten_writeValue {v : Value} (h : v.IsTextual) :
    ∀ behindKey column page, page.IsWritten →
      (writeValue behindKey column page v).IsWritten := by
  have hBlank : AllWritten [' '] := by decide
  induction h with
  | text s =>
    intro behindKey column page hPage
    rw [writeValue]
    exact isWritten_writeText _ _ (hPage.put hBlank) s
  | bool b =>
    intro behindKey column page hPage
    rw [writeValue]
    refine isWritten_writePlain _ _ (hPage.put hBlank) ?_
    cases b <;> decide
  | list hItems ih =>
    intro behindKey column page hPage
    rw [writeValue]
    split_ifs
    · exact hPage.put (by decide)
    · exact isWritten_writeItems ih _ _ (hPage.newLine column)
    · exact isWritten_writeItems ih _ _ (hPage.put hBlank)
  | map hEntries ih =>
    intro behindKey column page hPage
    rw [writeValue]
    split_ifs
    · exact hPage.put (by decide)
    · exact isWritten_writeEntries ih _ _ (hPage.newLine _)
    · exact isWritten_writeEntries ih _ _ (hPage.put hBlank)

theorem sortKeysItems_eq (items : List Value) : sortKeysItems items = items.map sortKeys := by
  induction items with
  | nil => simp only [sortKeysItems, List.map_nil]
  | cons v items ih => simp only [sortKeysItems, List.map_cons, ih]

theorem sortKeysEntries_eq (entries : Entries) :
    sortKeysEntries entries = entries.map fun e => (e.1, sortKeys e.2) := by
  induction entries with
  | nil => simp only [sortKeysEntries, List.map_nil]
  | cons e entries ih => simp only [sortKeysEntries, List.map_cons, ih]

theorem isTextual_sortKeys {v : Value} (h : v.IsTextual) : (sortKeys v).IsTextual := by
  induction h with
  | text s =>
    rw [sortKeys]
    exact .text s
  | bool b =>
    rw [sortKeys]
    exact .bool b
  | list hItems ih =>
    rw [sortKeys, sortKeysItems_eq]
    exact .list (List.forall_mem_map.mpr ih)
  | map hEntries ih =>
    rw [sortKeys, sortKeysEntries_eq]
    refine .map fun sorted hSorted => ?_
    obtain ⟨e, he, rfl⟩ := List.mem_map.mp (List.mem_mergeSort.mp hSorted)
    exact ih e he

/-- Every character of a written document is a line feed, the next line character, or one that
needs no escape. -/
theorem isWritten_write {entries : Entries} (h : ∀ e ∈ entries, e.2.IsTextual) :
    AllWritten (write entries).toList := by
  have hStart : (Page.mk [] 0).IsWritten := allWritten_nil
  have hSorted := isTextual_sortKeys (.map h)
  have hLast {page : Page} (hPage : page.IsWritten) :
      AllWritten (String.ofList ('\n' :: page.written).reverse).toList := by
    intro c hc
    rw [String.toList_ofList, List.mem_reverse] at hc
    rcases List.mem_cons.mp hc with rfl | hc
    · decide
    · exact hPage c hc
  refine hLast ?_
  split
  · exact hStart.put (by decide)
  · rename_i sorted _ hEq
    rw [hEq] at hSorted
    cases hSorted with
    | map hEntries =>
      exact isWritten_writeEntries (fun e he => isWritten_writeValue (hEntries e he)) true 0 hStart
  · exact hStart

end

end Yaml

end BuildSync
