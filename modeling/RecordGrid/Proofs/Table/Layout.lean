/-
**The lines of a table stand in columns.**

The width of a column is found in one pass over titles and cells, and each cell is cut or padded in
another.  For texts of printable ASCII both count characters, so that every line comes out as long
as the rule below the header and has its separators at the same places, whatever the cells hold:
texts that are too long, missing values, widths of zero, any marker before a row.

Of what shows a line in its style only one thing matters: in a plain style it leaves a text without
controls as it is.  The results hold for every renderer that does, and the usual one is among them.

Main definitions:

* `RecordGrid.Renderer.LeavesPlain` — a plain style leaves a text without controls as it is;
* `RecordGrid.TableFrame.Printable` — titles and cells are printable ASCII;
* `RecordGrid.TableFrame.shownWidth`, `RecordGrid.TableFrame.lineWidth`,
  `RecordGrid.TableFrame.separators` — the layout, counted in characters;
* `RecordGrid.TableFrame.LaidOut` — a line that keeps to the layout;
* `RecordGrid.TableFrame.Aligned` — lines that make up a table of that layout.

Main results:

* `RecordGrid.Style.render_plain` — the usual renderer leaves such texts as they are;
* `RecordGrid.TableFrame.Printable.columnWidth` — widths are counted in characters;
* `RecordGrid.TableFrame.Printable.laidOut` — **a line of cells keeps to the layout**;
* `RecordGrid.TableFrame.lines_viewWith` — the view falls apart into the lines that it was made of;
* `RecordGrid.TableFrame.aligned_view` — **the lines of a view are aligned**.
-/

import Mathlib.Algebra.GroupWithZero.Nat
import Mathlib.Data.List.Basic
import RecordGrid.Proofs.Text.Printable
import RecordGrid.Table.View

set_option relaxedAutoImplicit false
set_option autoImplicit false

namespace RecordGrid

/-! ### Cells between separators -/

section

variable {α : Type} {sep : α}

theorem mem_intercalate {cells : List (List α)} {c : α} (h : c ∈ [sep].intercalate cells) :
    c = sep ∨ ∃ p ∈ cells, c ∈ p := by
  induction cells with
  | nil => exact absurd h List.not_mem_nil
  | cons p cells ih =>
      cases cells with
      | nil =>
          rw [List.intercalate_singleton] at h
          exact .inr ⟨p, List.mem_cons_self .., h⟩
      | cons q cells =>
          rw [List.intercalate_cons_cons, List.mem_append, List.mem_append] at h
          rcases h with (h | h) | h
          · exact .inr ⟨p, List.mem_cons_self .., h⟩
          · exact .inl (List.mem_singleton.1 h)
          · rcases ih h with rfl | ⟨r, hr, hc⟩
            · exact .inl rfl
            · exact .inr ⟨r, List.mem_cons_of_mem p hr, hc⟩

theorem length_intercalate (sep : α) (cells : List (List α)) :
    ([sep].intercalate cells).length = (cells.map List.length).sum + (cells.length - 1) := by
  induction cells with
  | nil => rfl
  | cons p cells ih =>
      cases cells with
      | nil => simp
      | cons q cells =>
          rw [List.intercalate_cons_cons, List.length_append, List.length_append, ih]
          simp only [List.length_cons, List.map_cons, List.sum_cons, List.length_nil]
          omega

/-- The places between cells of some widths, the first of which begins at `start`. -/
def separatorsFrom (start : Nat) : List Nat → List Nat
  | w :: v :: ws => (start + w) :: separatorsFrom (start + w + 1) (v :: ws)
  | _ => []

theorem idxsOf_append_of_notMem [BEq α] [LawfulBEq α] {as : List α} (h : sep ∉ as) (bs : List α)
    (start : Nat) : (as ++ bs).idxsOf sep start = bs.idxsOf sep (start + as.length) := by
  have hnone : as.findIdxs (· == sep) start = [] := by
    rw [List.findIdxs_eq_nil_iff]
    intro a ha
    exact beq_eq_false_iff_ne.2 fun heq => h (heq ▸ ha)
  rw [List.idxsOf, List.findIdxs_append, hnone, List.nil_append]
  rfl

/-- Where cells do not hold the separator, it stands between them and nowhere else. -/
theorem idxsOf_intercalate [BEq α] [LawfulBEq α] {cells : List (List α)}
    (h : ∀ p ∈ cells, sep ∉ p) (start : Nat) :
    ([sep].intercalate cells).idxsOf sep start =
      separatorsFrom start (cells.map List.length) := by
  induction cells generalizing start with
  | nil => rfl
  | cons p cells ih =>
      have hp : sep ∉ p := h p (List.mem_cons_self ..)
      cases cells with
      | nil =>
          have hnone := idxsOf_append_of_notMem hp [] start
          rw [List.append_nil] at hnone
          rw [List.intercalate_singleton, hnone]
          rfl
      | cons q cells =>
          have hrest : ∀ r ∈ q :: cells, sep ∉ r := fun r hr => h r (List.mem_cons_of_mem p hr)
          have hcells := ih hrest (start + p.length + 1)
          rw [List.intercalate_cons_cons, List.append_assoc, idxsOf_append_of_notMem hp,
            List.singleton_append, List.idxsOf, List.findIdxs_cons, if_pos (beq_self_eq_true sep),
            List.map_cons, List.map_cons, separatorsFrom, ← List.map_cons, ← hcells]
          rfl

end

/-! ### Plain styles -/

/-- A renderer that leaves a text without controls as it is, where the style is plain. -/
def Renderer.LeavesPlain (render : Renderer) : Prop :=
  ∀ ⦃cs : List Char⦄, (∀ c ∈ cs, Text.Escape.isControl c = false) → render {} cs = cs

/-- **The usual renderer leaves such texts as they are.** -/
theorem Style.render_plain : Renderer.LeavesPlain Style.render := by
  intro cs h
  -- Carriage returns and tabs are controls, so that neither of the two passes finds anything.
  have hends : plainLineEnds cs = cs := by
    induction cs with
    | nil => rfl
    | cons c cs ih =>
        have hreturn : c ≠ '\r' := by
          rintro rfl
          exact absurd (h _ (List.mem_cons_self ..)) (by decide)
        have hcs := ih fun d hd => h d (List.mem_cons_of_mem c hd)
        rw [plainLineEnds, hcs]
        · exact fun _ heq => absurd heq hreturn
        · exact hreturn
  have htabs : expandTabs cs = cs := by
    rw [expandTabs, List.flatMap_congr (g := fun c => [c]), List.flatMap_singleton']
    intro c hc
    have htab : c ≠ '\t' := by
      rintro rfl
      exact absurd (h _ hc) (by decide)
    rw [if_neg htab]
  rw [render, hends, htabs]

namespace TableFrame

/-! ### The layout in characters -/

/-- The length of the longest of some texts. -/
def longest (texts : List (List Char)) : Nat := (texts.map List.length).foldr max 0

/-- The texts that a column shows: its title and its cells, that of the summary included. -/
def columnTexts (f : TableFrame) (column : Column) : List (List Char) :=
  column.title.toList :: (f.rows ++ f.summary.toList).map (cell column)

/-- The characters that a column has for its texts: as many as it says, or as its longest text
has, but no more than forty. -/
def shownWidth (f : TableFrame) (column : Column) : Nat :=
  match column.width with
  | some n => n.toNat
  | none => min (longest (f.columnTexts column)) 40

/-- The characters between the separators at the sides of a column. -/
def spanWidth (f : TableFrame) (column : Column) : Nat :=
  f.shownWidth column + 2 * f.density.padding

/-- The length of a line: the room for the cursor and the selection, the columns, and a separator
between any two of them. -/
def lineWidth (f : TableFrame) : Nat :=
  4 + (f.columns.map f.spanWidth).sum + (f.columns.length - 1)

/-- The places of the separators in a line. -/
def separators (f : TableFrame) : List Nat := separatorsFrom 4 (f.columns.map f.spanWidth)

/-- Titles and cells consist of characters that ASCII prints. -/
structure Printable (f : TableFrame) : Prop where
  /-- The titles do. -/
  titles : ∀ column ∈ f.columns, Text.Printable column.title.toList
  /-- The cells do, those of the summary included. -/
  cells : ∀ row ∈ f.rows ++ f.summary.toList, ∀ column ∈ f.columns, Text.Printable (cell column row)

/-- A line that keeps to the layout: after what stands before it, it has a cell for each column. -/
structure LaidOut (f : TableFrame) (front : List Char) (content : Column → List Char)
    (l : List Char) : Prop where
  /-- It shows the content. -/
  text : l = front ++ f.line content
  /-- It is as long as every other line. -/
  length : l.length = f.lineWidth
  /-- Its separators stand where those of every other line do. -/
  separators : l.idxsOf '│' = f.separators

/-- Lines that make up a table. -/
structure Aligned (f : TableFrame) (ls : List (List Char)) : Prop where
  /-- No line is missing, and none is too much. -/
  length : ls.length = 2 + (if f.rows = [] then 1 else 0)
    + f.rows.length * (1 + f.density.spacing) + (if f.summary.isSome then 2 else 0)
  /-- The header stands first. -/
  header : ∃ l, ls[0]? = some l ∧ f.LaidOut margin (fun column => column.title.toList) l
  /-- A rule as long as the header stands below it. -/
  rule : ls[1]? = some f.rule ∧ f.rule.length = f.lineWidth
  /-- The rows follow, with blank lines between them. -/
  row (i : Nat) (row : Row) (h : f.rows[i]? = some row) :
    ∃ l, ls[2 + i * (1 + f.density.spacing)]? = some l ∧
      f.LaidOut (marker (i == f.cursor) (f.isSelected row)) (fun column => cell column row) l
  /-- Another rule and the summary stand last. -/
  summary (row : Row) (h : f.summary = some row) :
    ls[ls.length - 2]? = some f.rule ∧
      ∃ l, ls[ls.length - 1]? = some l ∧ f.LaidOut margin (fun column => cell column row) l

/-! ### Widths -/

theorem foldl_max_eq (n : Nat) (ns : List Nat) : ns.foldl max n = max n (ns.foldr max 0) := by
  induction ns generalizing n with
  | nil => exact (Nat.max_zero n).symm
  | cons m ns ih =>
      rw [List.foldl_cons, ih, List.foldr_cons]
      omega

namespace Printable

variable {f : TableFrame}

/-- **Widths are counted in characters.** -/
theorem columnWidth (hf : f.Printable) {column : Column} (h : column ∈ f.columns) :
    f.columnWidth column = f.shownWidth column := by
  rw [TableFrame.columnWidth, shownWidth]
  cases column.width with
  | some n => rfl
  | none =>
      have hcells : (f.rows ++ f.summary.toList).map (fun row => Text.width (cell column row)) =
          ((f.rows ++ f.summary.toList).map (cell column)).map List.length := by
        rw [List.map_map]
        exact List.map_congr_left fun row hrow => (hf.cells row hrow column h).width
      show min (List.foldl max _ (List.map _ _)) _ = _
      rw [hcells, (hf.titles column h).width, foldl_max_eq]
      rfl

/-! ### Lines -/

section

variable {content : Column → List Char}

theorem length_padded (hf : f.Printable) {column : Column} (h : column ∈ f.columns)
    (hcontent : Text.Printable (content column)) :
    (f.padded column (content column)).length = f.spanWidth column := by
  rw [padded, List.length_append, List.length_append, List.length_replicate, hcontent.length_fit,
    hf.columnWidth h, spanWidth]
  omega

theorem map_length_padded (hf : f.Printable)
    (hcontent : ∀ column ∈ f.columns, Text.Printable (content column)) :
    (f.columns.map fun column => f.padded column (content column)).map List.length =
      f.columns.map f.spanWidth := by
  rw [List.map_map]
  exact List.map_congr_left fun column h => hf.length_padded h (hcontent column h)

end

end Printable

section

variable {f : TableFrame} {content : Column → List Char}

/-- A cell holds printable characters and ellipses. -/
theorem mem_padded {column : Column} (hcontent : Text.Printable (content column)) {c : Char}
    (hc : c ∈ f.padded column (content column)) :
    (0x20 ≤ c.toNat ∧ c.toNat < 0x7f) ∨ c = Text.ellipsis := by
  have hpad : c ∈ List.replicate f.density.padding ' ' → 0x20 ≤ c.toNat ∧ c.toNat < 0x7f := by
    intro hc
    rw [List.eq_of_mem_replicate hc]
    decide
  rw [padded, List.mem_append, List.mem_append] at hc
  rcases hc with (hc | hc) | hc
  · exact .inl (hpad hc)
  · exact hcontent.mem_fit hc
  · exact .inl (hpad hc)

theorem separator_notMem_padded {column : Column} (hcontent : Text.Printable (content column)) :
    '│' ∉ f.padded column (content column) := by
  intro hc
  rcases mem_padded hcontent hc with h | h
  · exact absurd h (by decide)
  · exact absurd h (by decide)

/-- A line of cells holds no controls. -/
theorem isControl_line (hcontent : ∀ column ∈ f.columns, Text.Printable (content column))
    {front : List Char} (hfront : ∀ c ∈ front, Text.Escape.isControl c = false) {c : Char}
    (hc : c ∈ front ++ f.line content) : Text.Escape.isControl c = false := by
  rcases List.mem_append.1 hc with hc | hc
  · exact hfront c hc
  · rcases mem_intercalate hc with rfl | ⟨p, hp, hc⟩
    · rfl
    · obtain ⟨column, h, rfl⟩ := List.mem_map.1 hp
      rcases mem_padded (hcontent column h) hc with hc | rfl
      · exact Text.isControl_printable hc
      · rfl

/-- **A line of cells keeps to the layout**, whatever four characters stand before it. -/
theorem Printable.laidOut (hf : f.Printable)
    (hcontent : ∀ column ∈ f.columns, Text.Printable (content column)) {front : List Char}
    (hfour : front.length = 4) (hfront : '│' ∉ front) :
    f.LaidOut front content (front ++ f.line content) := by
  have hwidths := hf.map_length_padded hcontent
  constructor
  · rfl
  · rw [List.length_append, hfour, line, length_intercalate, hwidths, List.length_map, lineWidth]
    omega
  · have hcells : ∀ p ∈ f.columns.map fun column => f.padded column (content column), '│' ∉ p := by
      intro p hp
      obtain ⟨column, h, rfl⟩ := List.mem_map.1 hp
      exact separator_notMem_padded (hcontent column h)
    rw [idxsOf_append_of_notMem hfront, hfour, line, idxsOf_intercalate hcells, hwidths]
    rfl

theorem length_rule (hf : f.Printable) : f.rule.length = f.lineWidth := by
  -- The widths agree only for columns of the table, which the induction has to keep in sight.
  have hsum (columns : List Column) (h : ∀ column ∈ columns, column ∈ f.columns) :
      columns.foldr (fun column n => f.columnWidth column + 2 * f.density.padding + n) 0 =
        (columns.map f.spanWidth).sum := by
    induction columns with
    | nil => rfl
    | cons column columns ih =>
        have hwidth := hf.columnWidth (h column (List.mem_cons_self ..))
        have hrest := ih fun d hd => h d (List.mem_cons_of_mem column hd)
        rw [List.foldr_cons, hrest, hwidth, List.map_cons, List.sum_cons, spanWidth]
  rw [rule, List.length_append, List.length_replicate, ruleWidth, hsum f.columns fun _ h => h,
    lineWidth]
  show 4 + _ = _
  omega

end

/-! ### The lines of a view -/

section

variable {f : TableFrame} {render : Renderer}

theorem length_rowLines (i : Nat) (row : Row) :
    (f.rowLines render i row).length = 1 + f.density.spacing := by
  rw [rowLines, List.length_cons, List.length_replicate, Nat.add_comm]

theorem length_rowsLines (i : Nat) (rows : List Row) :
    (f.rowsLines render i rows).length = rows.length * (1 + f.density.spacing) := by
  induction rows generalizing i with
  | nil => rw [rowsLines, List.length_nil, List.length_nil, Nat.zero_mul]
  | cons row rows ih =>
      rw [rowsLines, List.length_append, length_rowLines, ih, List.length_cons, Nat.succ_mul,
        Nat.add_comm]

/-- The lines of a row stand behind those of the rows before it. -/
theorem getElem?_rowsLines {rows : List Row} {k : Nat} {row : Row} (h : rows[k]? = some row)
    (i : Nat) :
    (f.rowsLines render i rows)[k * (1 + f.density.spacing)]? =
      (f.rowLines render (i + k) row).head? := by
  induction rows generalizing i k with
  | nil => simp at h
  | cons first rows ih =>
      rw [rowsLines]
      cases k with
      | zero =>
          obtain rfl : first = row := Option.some.inj h
          rw [Nat.zero_mul]
          rfl
      | succ k =>
          have hle : (f.rowLines render i first).length ≤ (k + 1) * (1 + f.density.spacing) := by
            rw [length_rowLines, Nat.succ_mul]
            omega
          have hskip : (k + 1) * (1 + f.density.spacing) - (f.rowLines render i first).length =
              k * (1 + f.density.spacing) := by
            rw [length_rowLines, Nat.succ_mul, Nat.add_sub_cancel]
          have hnumber : i + (k + 1) = i + 1 + k := by omega
          rw [List.getElem?_append_right hle, hskip, ih h, hnumber]

theorem mem_rowsLines {i : Nat} {rows : List Row} {l : List Char}
    (h : l ∈ f.rowsLines render i rows) :
    l = [] ∨ ∃ j, ∃ row ∈ rows, (f.rowLines render j row).head? = some l := by
  induction rows generalizing i with
  | nil => exact absurd h List.not_mem_nil
  | cons row rows ih =>
      rw [rowsLines, rowLines, List.cons_append, List.mem_cons, List.mem_append] at h
      rcases h with rfl | h | h
      · exact .inr ⟨i, row, List.mem_cons_self .., rfl⟩
      · exact .inl (List.eq_of_mem_replicate h)
      · rcases ih h with h | ⟨j, r, hr, h⟩
        · exact .inl h
        · exact .inr ⟨j, r, List.mem_cons_of_mem row hr, h⟩

theorem length_summaryLines :
    (f.summaryLines render).length = if f.summary.isSome then 2 else 0 := by
  rw [summaryLines]
  cases f.summary with
  | none => rfl
  | some row => rfl

theorem length_vacantLines : (f.vacantLines render).length = if f.rows = [] then 1 else 0 := by
  rw [vacantLines]
  cases f.rows with
  | nil => rfl
  | cons row rows => simp

/-- No line is missing, and none is too much. -/
theorem length_tableLines :
    (f.tableLines render).length = 2 + (if f.rows = [] then 1 else 0)
      + f.rows.length * (1 + f.density.spacing) + (if f.summary.isSome then 2 else 0) := by
  rw [tableLines, List.length_append, List.length_append, List.length_cons, List.length_cons,
    length_vacantLines, length_rowsLines, length_summaryLines]
  omega

/-- The rows stand behind the header and the rule. -/
theorem getElem?_tableLines {i : Nat} {row : Row} (h : f.rows[i]? = some row) :
    (f.tableLines render)[2 + i * (1 + f.density.spacing)]? = (f.rowLines render i row).head? := by
  obtain ⟨hi, -⟩ := List.getElem?_eq_some_iff.1 h
  have hvacant : f.vacantLines render = [] := by
    rw [vacantLines, if_neg]
    intro hempty
    rw [List.isEmpty_iff.1 hempty] at hi
    exact absurd hi (Nat.not_lt_zero i)
  have hinside : i * (1 + f.density.spacing) < (f.rowsLines render 0 f.rows).length := by
    rw [length_rowsLines]
    exact Nat.mul_lt_mul_of_pos_right hi (by omega)
  have hrow : (f.rowsLines render 0 f.rows)[i * (1 + f.density.spacing)]? =
      (f.rowLines render (0 + i) row).head? := getElem?_rowsLines h 0
  rw [Nat.zero_add] at hrow
  rw [tableLines, hvacant, List.append_assoc, Nat.add_comm 2]
  show (f.rowsLines render 0 f.rows ++ f.summaryLines render)[i * (1 + f.density.spacing)]? = _
  rw [List.getElem?_append_left hinside, hrow]

/-- What stands before a row holds neither controls nor separators. -/
theorem mem_marker (atCursor selected : Bool) {c : Char} (h : c ∈ marker atCursor selected) :
    Text.Escape.isControl c = false ∧ c ≠ '│' := by
  rw [marker, List.mem_cons, List.mem_cons, List.mem_cons, List.mem_singleton] at h
  rcases h with rfl | rfl | rfl | rfl
  · cases atCursor <;> decide
  · decide
  · cases selected <;> decide
  · decide

theorem length_marker (atCursor selected : Bool) : (marker atCursor selected).length = 4 := rfl

theorem mem_margin {c : Char} (h : c ∈ margin) : Text.Escape.isControl c = false ∧ c ≠ '│' :=
  mem_marker false false h

theorem isControl_rule {c : Char} (h : c ∈ f.rule) : Text.Escape.isControl c = false := by
  rcases List.mem_append.1 h with h | h
  · exact (mem_margin h).1
  · rw [List.eq_of_mem_replicate h]
    rfl

/-- The texts of a row are printable. -/
theorem Printable.row (hf : f.Printable) {row : Row} (h : row ∈ f.rows) :
    ∀ column ∈ f.columns, Text.Printable (cell column row) :=
  hf.cells row (List.mem_append_left _ h)

/-- The texts of the summary are printable. -/
theorem Printable.summary (hf : f.Printable) {row : Row} (h : f.summary = some row) :
    ∀ column ∈ f.columns, Text.Printable (cell column row) := by
  refine hf.cells row (List.mem_append_right _ ?_)
  rw [h]
  exact List.mem_singleton_self row

end

section

variable {f : TableFrame} {render : Renderer} (hrender : render.LeavesPlain)
  (hstyles : f.styles = .plain) (hf : f.Printable)
include hrender hstyles hf

theorem headerLine_plain :
    f.headerLine render = margin ++ f.line fun column => column.title.toList := by
  have hstyle : f.styles.header = {} := by
    rw [hstyles]
    rfl
  rw [headerLine, hstyle]
  exact hrender fun c => isControl_line hf.titles fun _ hc => (mem_margin hc).1

theorem head?_rowLines_plain {row : Row} (h : row ∈ f.rows) (i : Nat) :
    (f.rowLines render i row).head? =
      some (marker (i == f.cursor) (f.isSelected row) ++ f.line fun column => cell column row) := by
  have hstyle : (if i == f.cursor then f.styles.cursor else f.styles.row) = {} := by
    rw [hstyles]
    split <;> rfl
  rw [rowLines, List.head?_cons, hstyle, hrender]
  exact fun c => isControl_line (hf.row h) fun _ hc => (mem_marker _ _ hc).1

theorem summaryLines_plain {row : Row} (h : f.summary = some row) :
    f.summaryLines render = [f.rule, margin ++ f.line fun column => cell column row] := by
  have hstyle : f.styles.summary = {} := by
    rw [hstyles]
    rfl
  rw [summaryLines, h, hstyle]
  show [_, render {} _] = _
  rw [hrender]
  exact fun c => isControl_line (hf.summary h) fun _ hc => (mem_margin hc).1

/-- No line holds a control: not the header, a rule, the note that there are no rows, a row, a
blank line or the summary. -/
theorem isControl_tableLines {l : List Char} (hl : l ∈ f.tableLines render) {c : Char}
    (hc : c ∈ l) : Text.Escape.isControl c = false := by
  rw [tableLines, List.mem_append, List.mem_append, List.mem_cons, List.mem_cons] at hl
  rcases hl with ((rfl | rfl | hl) | hl) | hl
  · rw [headerLine_plain hrender hstyles hf] at hc
    exact isControl_line hf.titles (fun _ hc => (mem_margin hc).1) hc
  · exact isControl_rule hc
  · rw [vacantLines, hstyles] at hl
    split at hl
    · have hvacant : Text.Printable (margin ++ "No data".toList) := by decide
      obtain rfl := List.mem_singleton.1 hl
      rw [show TableStyles.plain.vacant = {} from rfl,
        hrender fun d hd => Text.isControl_printable (hvacant d hd)] at hc
      exact Text.isControl_printable (hvacant c hc)
    · exact absurd hl List.not_mem_nil
  · rcases mem_rowsLines hl with rfl | ⟨i, row, hrow, hhead⟩
    · exact absurd hc List.not_mem_nil
    · rw [head?_rowLines_plain hrender hstyles hf hrow] at hhead
      obtain rfl := Option.some.inj hhead
      exact isControl_line (hf.row hrow) (fun _ hc => (mem_marker _ _ hc).1) hc
  · cases hsummary : f.summary with
    | none =>
        rw [summaryLines, hsummary] at hl
        exact absurd hl List.not_mem_nil
    | some row =>
        rw [summaryLines_plain hrender hstyles hf hsummary] at hl
        rcases List.mem_pair.1 hl with rfl | rfl
        · exact isControl_rule hc
        · exact isControl_line (hf.summary hsummary) (fun _ hc => (mem_margin hc).1) hc

/-- **The view falls apart into the lines that it was made of.** -/
theorem lines_viewWith : Text.lines (f.viewWith render).toList = f.tableLines render := by
  rw [viewWith, String.toList_ofList]
  refine Text.FormEncoding.splitOn_intercalate fun l hl hmem => ?_
  exact absurd (isControl_tableLines hrender hstyles hf hl hmem) (by decide)

theorem aligned_tableLines : f.Aligned (f.tableLines render) := by
  constructor
  case length => exact length_tableLines
  case header =>
    refine ⟨f.headerLine render, rfl, ?_⟩
    rw [headerLine_plain hrender hstyles hf]
    exact hf.laidOut hf.titles rfl (by decide)
  case rule => exact ⟨rfl, length_rule hf⟩
  case row =>
    intro i row h
    have hrow : row ∈ f.rows := List.mem_of_getElem? h
    refine ⟨_, (getElem?_tableLines h).trans (head?_rowLines_plain hrender hstyles hf hrow i), ?_⟩
    exact hf.laidOut (hf.row hrow) (length_marker _ _) fun hc => (mem_marker _ _ hc).2 rfl
  case summary =>
    intro row h
    rw [tableLines, summaryLines_plain hrender hstyles hf h, List.length_append]
    refine ⟨?_, _, ?_, hf.laidOut (hf.summary h) rfl (by decide)⟩
    · rw [List.getElem?_append_right (by simp)]
      simp
    · rw [List.getElem?_append_right (by simp)]
      simp

/-- **The lines of a view are aligned**, whichever renderer shows them, as long as it leaves plain
text as it is. -/
theorem aligned_view : f.Aligned (Text.lines (f.viewWith render).toList) := by
  rw [lines_viewWith hrender hstyles hf]
  exact aligned_tableLines hrender hstyles hf

end

/-- A table of disks: a title that is cut, a column without room, missing and absent values, a row
that is selected and one under the cursor, and a summary. -/
def disks : TableFrame where
  columns :=
    [{ key := "name", title := "Name" }, { key := "kind", title := "Kind", width := some 3 },
      { key := "note", title := "Note", width := some 0 }, { key := "used", title := "Used" }]
  rows := [.ofList [("id", .bool true), ("name", .string "alpha"), ("used", .bool true)],
    .ofList [("id", .bool false), ("kind", .string "fast"), ("note", .null)]]
  summary := some (.ofList [("name", .string "Summary")])
  density := .large
  selected := [.bool true]
  cursor := 1
  styles := .plain

/-- The header, the rows, the rules and the summary of that table have 29 characters each, as the
usual renderer shows it. -/
theorem aligned_view_disks :
    Renderer.LeavesPlain Style.render ∧ disks.styles = .plain ∧ disks.Printable ∧
      disks.Aligned (Text.lines disks.view.toList) ∧
      disks.lineWidth = 29 ∧ disks.separators = [13, 19, 22] := by
  have hf : disks.Printable := ⟨by decide, by decide⟩
  have haligned : disks.Aligned (Text.lines disks.view.toList) :=
    aligned_view Style.render_plain rfl hf
  exact ⟨Style.render_plain, rfl, hf, haligned, by decide, by decide⟩

end TableFrame

end RecordGrid
