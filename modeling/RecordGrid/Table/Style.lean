/-
**Styles of lines.**

A style is what a terminal is told before a text, and undone after it.  Blanks at the ends of a
line stay outside, so that nothing shows on them.

Main definitions:

* `RecordGrid.Style` — the codes of a style, or none;
* `RecordGrid.Renderer` — anything that shows texts in styles;
* `RecordGrid.Style.render` — the usual renderer;
* `RecordGrid.TableStyles` — the styles of the lines of a table, `standard` and `plain`.
-/

import RecordGrid.Text.Fit

set_option relaxedAutoImplicit false
set_option autoImplicit false

namespace RecordGrid

/-- The codes that a terminal is sent before a text; a plain style has none. -/
structure Style where
  /-- The codes, separated by semicolons. -/
  codes : Option String := none
deriving DecidableEq, Repr

/-- What shows a text in a style. -/
abbrev Renderer := Style → List Char → List Char

namespace Style

/-- Line ends of every kind as line feeds. -/
def plainLineEnds : List Char → List Char
  | [] => []
  | '\r' :: '\n' :: cs => '\n' :: plainLineEnds cs
  | '\r' :: cs => '\n' :: plainLineEnds cs
  | c :: cs => c :: plainLineEnds cs

/-- Each tab as four spaces. -/
def expandTabs (cs : List Char) : List Char :=
  cs.flatMap fun c => if c = '\t' then [' ', ' ', ' ', ' '] else [c]

/-- One line between codes.  Spaces at its ends stay outside, and a blank line stays as it is. -/
def wrapLine (codes : List Char) (cs : List Char) : List Char :=
  let front := cs.takeWhile (· = ' ')
  let rest := cs.dropWhile (· = ' ')
  let body := (rest.reverse.dropWhile (· = ' ')).reverse
  let back := rest.reverse.takeWhile (· = ' ')
  if body.isEmpty then cs
  else front ++ ['\x1b', '['] ++ codes ++ ['m'] ++ body ++ ['\x1b', '[', '0', 'm'] ++ back

/-- A text in a style. -/
def render (s : Style) (cs : List Char) : List Char :=
  let cs := expandTabs (plainLineEnds cs)
  match s.codes with
  | none => cs
  | some codes => ['\n'].intercalate ((Text.lines cs).map (wrapLine codes.toList))

end Style

/-- The styles of the lines of a table. -/
structure TableStyles where
  /-- The header. -/
  header : Style := {}
  /-- A row. -/
  row : Style := {}
  /-- The row under the cursor. -/
  cursor : Style := {}
  /-- The summary. -/
  summary : Style := {}
  /-- What stands in place of rows when there are none. -/
  vacant : Style := {}
deriving DecidableEq, Repr

namespace TableStyles

/-- Styles without codes. -/
def plain : TableStyles := {}

/-- The usual styles: a bold header, a faint summary, and colours for the cursor and for an empty
table. -/
def standard : TableStyles :=
  { header := ⟨some "1"⟩
    cursor := ⟨some "38;2;238;111;248"⟩
    summary := ⟨some "2"⟩
    vacant := ⟨some "38;2;98;98;98"⟩ }

end TableStyles

end RecordGrid
