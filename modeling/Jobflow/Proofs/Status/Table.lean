import Jobflow.Proofs.Files.Path
import Jobflow.Proofs.Text.Blank
import Jobflow.Status.Table
import Mathlib.Data.List.Forall2

/-!
# The columns of tables

A table whose rows have a cell for each header is shown in columns. The widths that are found row
by row leave room for every text, so that the headers and all rows have their texts at the same
offsets, two blanks apart at least. Between the texts there are only blanks. Lines are trimmed at
their ends, which takes nothing from texts that end in no white space. The rules are drawn as long
as the title and as all columns together, and no line is longer.
-/

namespace Jobflow.Status.Table

/-! ## Widths -/

/-- The texts of a row are no longer than the columns are wide. -/
def Fits (widths : List Nat) (cells : List Value) : Prop :=
  List.Forall₂ (fun width cell => (cellText cell).length ≤ width) widths cells

/-- Columns that are at least as wide as others. -/
def Wider (widths wider : List Nat) : Prop := List.Forall₂ (· ≤ ·) widths wider

/-- What fits into columns fits into wider ones. -/
theorem Fits.wider {widths wider : List Nat} {cells : List Value} (fits : Fits widths cells)
    (grown : Wider widths wider) : Fits wider cells := by
  induction grown generalizing cells with
  | nil => exact fits
  | cons first _ inductionHypothesis =>
    cases fits with
    | cons here later => exact .cons (here.trans first) (inductionHypothesis later)

/-- Columns stay wide enough as they grow. -/
theorem Wider.trans {first second third : List Nat} (one : Wider first second)
    (two : Wider second third) : Wider first third := by
  induction one generalizing third with
  | nil => exact two
  | cons here _ inductionHypothesis =>
    cases two with
    | cons there later => exact .cons (here.trans there) (inductionHypothesis later)

/-- A row with a cell for each column widens the columns so that it fits. -/
theorem exists_widen {widths : List Nat} {cells : List Value}
    (even : cells.length = widths.length) :
    ∃ wider, widen widths cells = .ok wider ∧ Wider widths wider ∧ Fits wider cells := by
  induction widths generalizing cells with
  | nil =>
    obtain rfl := List.length_eq_zero_iff.mp even
    exact ⟨[], by simp [widen], .nil, .nil⟩
  | cons width widths inductionHypothesis =>
    cases cells with
    | nil => simp at even
    | cons cell cells =>
      obtain ⟨wider, widened, grown, fits⟩ := inductionHypothesis (by simpa using even)
      refine ⟨max width (cellText cell).length :: wider, ?_, ?_, ?_⟩
      · rw [widen, widened]
        rfl
      · exact .cons (Nat.le_max_left _ _) grown
      · exact .cons (Nat.le_max_right _ _) fits

/-- Rows with a cell for each column widen the columns so that all of them fit, one row after the
other. -/
theorem exists_foldlM_widen {rows : List (List Value)} {widths : List Nat}
    (even : ∀ row ∈ rows, row.length = widths.length) :
    ∃ wider, rows.foldlM widen widths = .ok wider ∧ Wider widths wider ∧
      ∀ row ∈ rows, Fits wider row := by
  induction rows generalizing widths with
  | nil =>
    have still : Wider widths widths := List.forall₂_refl widths
    exact ⟨widths, rfl, still, by simp⟩
  | cons row rows inductionHypothesis =>
    rw [List.forall_mem_cons] at even
    obtain ⟨next, widened, grown, fits⟩ := exists_widen even.1
    have same : widths.length = next.length := grown.length_eq
    obtain ⟨wider, run, further, others⟩ :=
      inductionHypothesis fun other member => (even.2 other member).trans same
    refine ⟨wider, ?_, grown.trans further, ?_⟩
    · rw [List.foldlM_cons, widened]
      exact run
    · rw [List.forall_mem_cons]
      exact ⟨fits.wider further, others⟩

/-- The widths of the columns leave room for the headers and all rows. -/
theorem exists_widths {table : Table}
    (even : ∀ row ∈ table.rows, row.length = table.headers.length) :
    ∃ widths, table.widths = .ok widths ∧
      ∀ cells ∈ table.headers :: table.rows, Fits widths cells := by
  have headersFit (headers : List Value) :
      Fits (headers.map fun header => (cellText header).length) headers := by
    induction headers with
    | nil => exact .nil
    | cons header headers inductionHypothesis => exact .cons le_rfl inductionHypothesis
  let start := table.headers.map fun header => (cellText header).length
  have columns : ∀ row ∈ table.rows, row.length = start.length := by simpa [start] using even
  obtain ⟨widths, found, grown, fits⟩ := exists_foldlM_widen columns
  refine ⟨widths, found, ?_⟩
  rw [List.forall_mem_cons]
  exact ⟨(headersFit table.headers).wider grown, fits⟩

/-! ## Offsets -/

/-- The offsets at which columns of some widths start. -/
def columnStarts : List Nat → List Nat
  | [] => []
  | width :: widths => 0 :: (columnStarts widths).map (· + (width + gap.length))

/-- Each text of a row leaves two blanks before the next column. -/
def Spaced (offsets : List Nat) (cells : List Value) : Prop :=
  ∀ (column : Nat) (offset next : Nat) (cell : Value), offsets[column]? = some offset →
    offsets[column + 1]? = some next → cells[column]? = some cell →
    offset + (cellText cell).length + 2 ≤ next

/-- The columns are as far apart as texts that fit into them need. -/
theorem spaced_columnStarts {widths : List Nat} {cells : List Value} (fits : Fits widths cells) :
    Spaced (columnStarts widths) cells := by
  intro column offset next cell
  induction fits generalizing column offset next with
  | nil => simp [columnStarts]
  | @cons width first widths cells here later inductionHypothesis =>
    simp only [columnStarts, List.getElem?_cons_succ, List.getElem?_map, Option.map_eq_some_iff]
    cases column with
    | zero =>
      rintro ⟨⟩ ⟨start, -, rfl⟩ ⟨⟩
      simp only [gap, List.length_cons, List.length_nil]
      omega
    | succ column =>
      simp only [List.getElem?_cons_succ, List.getElem?_map, Option.map_eq_some_iff]
      rintro ⟨one, first, rfl⟩ ⟨two, second, rfl⟩ found
      have apart := inductionHypothesis column one two first second found
      omega

/-! ## Lines -/

/-- A line has the texts of the cells at the offsets of their columns, and only blanks apart from
them. -/
structure Shows (offsets : List Nat) (characters : List Char) (cells : List Value) : Prop where
  /-- Each text stands at the offset of its column. -/
  stands : List.Forall₂ (fun offset cell => cellText cell <+: characters.drop offset) offsets cells
  /-- What is no blank belongs to one of the texts. -/
  apart : ∀ (position : Nat) (c : Char), characters[position]? = some c → c ≠ ' ' →
    ∃ entry ∈ offsets.zip cells,
      entry.1 ≤ position ∧ position < entry.1 + (cellText entry.2).length

/-- A further column in front, of a text and blanks, shifts the others. -/
theorem Shows.cons {offsets : List Nat} {line front blanks : List Char} {cells : List Value}
    {cell : Value} (shows : Shows offsets line cells) (filled : front = cellText cell ++ blanks)
    (blank : ∀ c ∈ blanks, c = ' ') :
    Shows (0 :: offsets.map (· + front.length)) (front ++ line) (cell :: cells) where
  stands := by
    refine .cons ?_ ?_
    · simp [filled]
    · rw [List.forall₂_map_left_iff]
      refine shows.stands.imp fun offset other stands => ?_
      rwa [Nat.add_comm offset, ← List.drop_drop, List.drop_left]
  apart := by
    intro position c found other
    by_cases inFront : position < front.length
    · refine ⟨(0, cell), by simp, by simp, ?_⟩
      rw [List.getElem?_append_left inFront, filled] at found
      by_contra beyond
      rw [List.getElem?_append_right (by simpa using beyond)] at found
      exact other (blank c (List.mem_of_getElem? found))
    · rw [List.getElem?_append_right (by omega)] at found
      obtain ⟨⟨offset, inner⟩, member, starts, ends⟩ :=
        shows.apart (position - front.length) c found other
      have shifted : (offset + front.length, inner) ∈
          (offsets.map (· + front.length)).zip cells := by
        rw [List.zip_map_left, List.mem_map]
        exact ⟨(offset, inner), member, rfl⟩
      refine ⟨_, List.mem_cons_of_mem _ shifted, ?_, ?_⟩ <;> dsimp only at starts ends ⊢ <;> omega

/-- The cells of a row, each filled up to the width of its column. -/
def columnLine (widths : List Nat) (cells : List Value) : List Char :=
  gap.intercalate ((cells.zip widths).map fun (cell, width) => padTo width (cellText cell))

/-- A row without its last blanks is its line. -/
theorem rowLine_eq (widths : List Nat) (cells : List Value) :
    rowLine widths cells = Text.trimRight (columnLine widths cells) := rfl

/-- The line of a row is the first cell, two blanks and the line of the others, if there are any. -/
theorem columnLine_cons_cons (width second : Nat) (widths : List Nat) (cell other : Value)
    (cells : List Value) :
    columnLine (width :: second :: widths) (cell :: other :: cells) =
      padTo width (cellText cell) ++ gap ++ columnLine (second :: widths) (other :: cells) := by
  simp [columnLine, List.intercalate_cons_cons]

/-- A cell takes as many characters as its column is wide. -/
theorem length_padTo {width : Nat} {text : List Char} (fits : text.length ≤ width) :
    (padTo width text).length = width := by
  simp [padTo]
  omega

/-- A row shows its cells where the columns start. -/
theorem shows_columnLine {widths : List Nat} {cells : List Value} (fits : Fits widths cells) :
    Shows (columnStarts widths) (columnLine widths cells) cells := by
  induction fits with
  | nil => exact ⟨.nil, by simp [columnLine]⟩
  | @cons width cell widths cells here later inductionHypothesis =>
    cases later with
    | nil =>
      have single : columnLine [width] [cell] =
          padTo width (cellText cell) ++ columnLine [] [] := by
        simp [columnLine]
      rw [single]
      exact inductionHypothesis.cons rfl (by simp)
    | @cons second other widths cells _ _ =>
      have front : padTo width (cellText cell) ++ gap = cellText cell ++
          (List.replicate (width - (cellText cell).length) ' ' ++ gap) := by
        simp [padTo]
      have length : (padTo width (cellText cell) ++ gap).length = width + gap.length := by
        rw [List.length_append, length_padTo here]
      rw [columnLine_cons_cons, columnStarts, ← length]
      refine inductionHypothesis.cons front fun c member => ?_
      rcases List.mem_append.mp member with filling | between
      · exact List.eq_of_mem_replicate filling
      · simpa [gap] using between

/-- Taking white space from the end of a line takes nothing from texts that end in none. -/
theorem Shows.trimRight {offsets : List Nat} {line : List Char} {cells : List Value}
    (shows : Shows offsets line cells)
    (ends : ∀ cell ∈ cells, ∀ c ∈ (cellText cell).getLast?, Text.isBlank c = false) :
    Shows offsets (Text.trimRight line) cells := by
  obtain ⟨after, blank, split⟩ := Text.exists_trimRight line
  generalize Text.trimRight line = kept at split ⊢
  subst split
  refine ⟨?_, fun position c found => shows.apart position c ?_⟩
  · refine List.forall₂_iff_zip.mpr ⟨shows.stands.length_eq, fun {offset cell} member => ?_⟩
    have stands : cellText cell <+: (kept ++ after).drop offset :=
      List.forall₂_iff_zip.mp shows.stands |>.2 member
    cases last : (cellText cell).getLast? with
    | none => simp [List.getLast?_eq_none_iff.mp last]
    | some c =>
      -- The last character is no white space, so that it is not among those taken away.
      have visible := ends cell (List.of_mem_zip member).2 c last
      obtain ⟨before, text⟩ := List.getLast?_eq_some_iff.mp last
      have inside : (cellText cell).length ≤ (kept.drop offset).length := by
        by_contra beyond
        rw [List.drop_append] at stands
        obtain ⟨rest, whole⟩ := stands
        have position : (kept.drop offset ++ after.drop (offset - kept.length))[before.length]? =
            some c := by
          rw [← whole, text]
          simp
        rw [text, List.length_append, List.length_singleton] at beyond
        rw [List.getElem?_append_right (by omega)] at position
        have among := List.mem_of_mem_drop (List.mem_of_getElem? position)
        rw [blank c among] at visible
        cases visible
      have long : kept.drop offset <+: (kept ++ after).drop offset := by
        rw [List.drop_append]
        exact List.prefix_append _ _
      exact List.prefix_of_prefix_length_le stands long inside
  · obtain ⟨short, -⟩ := List.getElem?_eq_some_iff.mp found
    rw [List.getElem?_append_left short, found]

/-- A row is as long as all its columns and the blanks between them. -/
theorem length_columnLine {widths : List Nat} {cells : List Value} (fits : Fits widths cells) :
    (columnLine widths cells).length =
      widths.foldl Nat.add 0 + gap.length * (widths.length - 1) := by
  have total : widths.foldl Nat.add 0 = widths.sum := (List.sum_eq_foldl ..).symm
  rw [total]
  clear total
  induction fits with
  | nil => simp [columnLine]
  | @cons width cell widths cells here later inductionHypothesis =>
    cases later with
    | nil => simp [columnLine, length_padTo here]
    | cons _ _ =>
      rw [columnLine_cons_cons, List.length_append, List.length_append, length_padTo here,
        inductionHypothesis]
      simp [gap]
      omega

/-- No row is longer than the rules. -/
theorem length_rowLine_le {widths : List Nat} {cells : List Value} (fits : Fits widths cells)
    (title : String) : (rowLine widths cells).length ≤ ruleLength title widths := by
  obtain ⟨after, -, split⟩ := Text.exists_trimRight (columnLine widths cells)
  have whole := length_columnLine fits
  rw [split, List.length_append] at whole
  rw [rowLine_eq, ruleLength]
  omega

/-! ## The text of a table -/

/-- The characters of a line are blanks and those of its texts. -/
theorem Shows.mem_cases {offsets : List Nat} {line : List Char} {cells : List Value}
    (shows : Shows offsets line cells) {c : Char} (member : c ∈ line) :
    c = ' ' ∨ ∃ cell ∈ cells, c ∈ cellText cell := by
  obtain ⟨position, found⟩ := List.mem_iff_getElem?.mp member
  by_cases blank : c = ' '
  · exact .inl blank
  · right
    obtain ⟨⟨offset, cell⟩, entry, starts, ends⟩ := shows.apart position c found blank
    dsimp only at starts ends
    obtain ⟨rest, whole⟩ := (List.forall₂_iff_zip.mp shows.stands).2 entry
    refine ⟨cell, (List.of_mem_zip entry).2, ?_⟩
    have inside : (cellText cell)[position - offset]? = some c := by
      rw [← List.getElem?_append_left (by omega), whole, List.getElem?_drop,
        Nat.add_sub_cancel' starts, found]
    exact List.mem_of_getElem? inside

/-- No text of a table has a line break. -/
structure Unbroken (table : Table) : Prop where
  /-- The title has none. -/
  title : '\n' ∉ table.title.toList
  /-- No header and no other cell has one. -/
  cells : ∀ cells ∈ table.headers :: table.rows, ∀ cell ∈ cells, '\n' ∉ cellText cell
  /-- No note has one. -/
  notes : ∀ note ∈ table.notes, '\n' ∉ note.toList

/-- The lines of a table, given its rules, the line of its headers and those of its rows. -/
def linesWith (table : Table) (rule header : List Char) (rows : List (List Char)) :
    List (List Char) :=
  let body := if table.headers.isEmpty then [] else header :: rule :: rows ++ [rule]
  table.title.toList :: rule :: body ++ table.notes.map String.toList

/-- Lines without line breaks are found again in the text that they are joined to. -/
theorem splitAll_join {lines : List (List Char)} (whole : ∀ line ∈ lines, '\n' ∉ line)
    (nonempty : lines ≠ []) :
    Text.splitAll (· == '\n') (Text.join "\n" (lines.map String.ofList) ++ "\n").toList =
      lines ++ [[]] := by
  have single (line : List Char) (unbroken : '\n' ∉ line) :
      Text.splitAll (· == '\n') line = [line] := by
    refine Text.splitAll_of_forall fun c member => ?_
    exact beq_eq_false_iff_ne.mpr fun same => unbroken (same ▸ member)
  have cut (before after : List Char) : Text.splitAll (· == '\n') (before ++ '\n' :: after) =
      Text.splitAll (· == '\n') before ++ Text.splitAll (· == '\n') after :=
    Text.splitAll_append_cons rfl before after
  induction lines with
  | nil => exact absurd rfl nonempty
  | cons line others inductionHypothesis =>
    rw [List.forall_mem_cons] at whole
    cases others with
    | nil =>
      have text : (Text.join "\n" ([line].map String.ofList) ++ "\n").toList =
          line ++ '\n' :: [] := by
        simp [Text.join, String.toList_append]
      rw [text, cut, single line whole.1]
      rfl
    | cons second others =>
      have text : (Text.join "\n" ((line :: second :: others).map String.ofList) ++ "\n").toList =
          line ++ '\n' ::
            (Text.join "\n" ((second :: others).map String.ofList) ++ "\n").toList := by
        simp [Text.join, String.intercalate_cons_cons, String.toList_append]
      rw [text, cut, single line whole.1, inductionHypothesis whole.2 (List.cons_ne_nil _ _)]
      rfl

/-- A table without line breaks in its texts has none in its lines. -/
theorem Unbroken.linesWith {table : Table} (unbroken : table.Unbroken)
    {rule header : List Char} {rows : List (List Char)} (drawn : ∀ c ∈ rule, c = '-')
    (whole : ∀ line ∈ header :: rows, '\n' ∉ line) :
    ∀ line ∈ table.linesWith rule header rows, '\n' ∉ line := by
  have ruled : '\n' ∉ rule := fun member => absurd (drawn _ member) (by decide)
  have notes : ∀ line ∈ table.notes.map String.toList, '\n' ∉ line := by
    simpa using unbroken.notes
  rw [List.forall_mem_cons] at whole
  intro line member
  simp only [Table.linesWith, List.cons_append, List.mem_cons, List.mem_append] at member
  rcases member with rfl | rfl | inBody | inNotes
  · exact unbroken.title
  · exact ruled
  · split at inBody
    · simp at inBody
    · simp only [List.mem_cons, List.mem_append, List.not_mem_nil, or_false] at inBody
      rcases inBody with rfl | rfl | inRows | rfl
      · exact whole.1
      · exact ruled
      · exact whole.2 line inRows
      · exact ruled
  · exact notes line inNotes

/-- A text is made of the lines of a table, whose columns are aligned and as wide as they have to
be. -/
structure Aligned (table : Table) (offsets : List Nat) (rule header : List Char)
    (rows : List (List Char)) (text : String) : Prop where
  /-- The text has the lines of the table one below the other. -/
  joined : text = Text.join "\n" ((table.linesWith rule header rows).map String.ofList) ++ "\n"
  /-- These are its lines, unless a text of the table has a line break itself. -/
  lines : table.Unbroken →
    Text.splitAll (· == '\n') text.toList = table.linesWith rule header rows ++ [[]]
  /-- The headers and all rows have their texts at the same offsets. -/
  shows : List.Forall₂ (Shows offsets) (header :: rows) (table.headers :: table.rows)
  /-- The offsets leave two blanks after the longest text of each column. -/
  spaced : ∀ cells ∈ table.headers :: table.rows, Spaced offsets cells
  /-- The rules are drawn. -/
  drawn : ∀ c ∈ rule, c = '-'
  /-- The rules are as long as any of the lines that they part. -/
  within : ∀ line ∈ table.title.toList :: header :: rows, line.length ≤ rule.length

/-- A table whose rows have a cell for each header, and whose texts end in no white space, is shown
with its columns aligned. -/
theorem render_aligned (table : Table)
    (even : ∀ row ∈ table.rows, row.length = table.headers.length)
    (ends : ∀ cells ∈ table.headers :: table.rows, ∀ cell ∈ cells,
      ∀ c ∈ (cellText cell).getLast?, Text.isBlank c = false) :
    ∃ offsets rule header rows text,
      table.render = .ok text ∧ table.Aligned offsets rule header rows text := by
  obtain ⟨widths, found, fits⟩ := exists_widths even
  let rule := List.replicate (ruleLength table.title widths) '-'
  let header := rowLine widths table.headers
  let rows := table.rows.map (rowLine widths)
  have shows : ∀ cells ∈ table.headers :: table.rows,
      Shows (columnStarts widths) (rowLine widths cells) cells := fun cells member =>
    (shows_columnLine (fits cells member)).trimRight (ends cells member)
  have drawn : ∀ c ∈ rule, c = '-' := fun c => List.eq_of_mem_replicate
  have lines : table.textLines = .ok (table.linesWith rule header rows) := by
    rw [textLines, found]
    rfl
  have shown : table.render =
      .ok (Text.join "\n" ((table.linesWith rule header rows).map String.ofList) ++ "\n") := by
    rw [render, lines]
    rfl
  refine ⟨columnStarts widths, rule, header, rows, _, shown, rfl, fun unbroken => ?_, ?_,
    fun cells member => spaced_columnStarts (fits cells member), drawn, ?_⟩
  · refine splitAll_join (unbroken.linesWith drawn ?_) (by simp [linesWith])
    rw [← List.map_cons, List.forall_mem_map]
    intro cells member broken
    rcases (shows cells member).mem_cases broken with blank | ⟨cell, inside, here⟩
    · exact absurd blank (by decide)
    · exact unbroken.cells cells member cell inside here
  · rw [← List.map_cons, List.forall₂_map_left_iff, List.forall₂_same]
    exact shows
  · have long : rule.length = ruleLength table.title widths := List.length_replicate
    rw [long, List.forall_mem_cons]
    constructor
    · rw [String.length_toList]
      exact Nat.le_max_left _ _
    · rw [← List.map_cons, List.forall_mem_map]
      exact fun cells member => length_rowLine_le (fits cells member) table.title

/-- A table with an empty cell and a cell that is no text. -/
def recent : Table where
  title := "Project nightly"
  headers := [.text "Flow", .text "Execution", .text "Status"]
  rows := [[.text "clean", .int 12, .text "SUCCEEDED"], [.text "load data", .text "NONE", .text ""]]
  notes := ["Times are local."]

/-- The table is shown with its columns aligned. -/
theorem recent_aligned :
    (∀ row ∈ recent.rows, row.length = recent.headers.length) ∧
      (∀ cells ∈ recent.headers :: recent.rows, ∀ cell ∈ cells,
        ∀ c ∈ (cellText cell).getLast?, Text.isBlank c = false) ∧
      ∃ offsets rule header rows text,
        recent.render = .ok text ∧ recent.Aligned offsets rule header rows text := by
  have even : ∀ row ∈ recent.rows, row.length = recent.headers.length := by decide
  have visible : ∀ cells ∈ recent.headers :: recent.rows, ∀ cell ∈ cells,
      (cellText cell).getLast?.all (!Text.isBlank ·) = true := by decide +kernel
  have ends : ∀ cells ∈ recent.headers :: recent.rows, ∀ cell ∈ cells,
      ∀ c ∈ (cellText cell).getLast?, Text.isBlank c = false := by
    intro cells row cell inside c last
    have shown := (Option.all_eq_true _ _).mp (visible cells row cell inside) c last
    simpa using shown
  exact ⟨even, ends, render_aligned recent even ends⟩

end Jobflow.Status.Table
