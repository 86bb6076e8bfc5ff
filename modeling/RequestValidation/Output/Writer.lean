import RequestValidation.Output.Layout
import RequestValidation.Output.Human
/-!
# Writing output

A writer turns each piece of output into the text that goes out for it, depending on the layout,
on whether colours are wanted and on whether only what matters is. Messages for people are written
in the layout for people alone.

A table has a column for each header, as wide as its widest cell; columns are separated by bars,
and the line below the headers crosses them.
-/
namespace RequestValidation

/-- A way to make text stand out on a terminal. -/
inductive Paint where
  | blue
  | green
  | yellow
  | brightBlue
  | bold
  | boldRed
deriving DecidableEq, Repr

namespace Paint

def code : Paint → String
  | blue => "34"
  | green => "32"
  | yellow => "33"
  | brightBlue => "94"
  | bold => "1"
  | boldRed => "1;31"

/-- The sequence that ends all painting. -/
def reset : String := "\x1b[0m"

def start (p : Paint) : String := "\x1b[" ++ p.code ++ "m"

/-- Painted text. Where the text itself ends some painting it is painted on. -/
def apply (p : Paint) (s : String) : String :=
  p.start ++ (reset ++ p.start).intercalate (s.splitOn reset) ++ reset

end Paint

/-- Mirrors `OutputWriter`. -/
structure Writer where
  layout : Layout
  color : Bool
  quiet : Bool

namespace Writer

/-- Mirrors `is_human`. -/
def forPeople (w : Writer) : Bool := w.layout == .human

/-- Are messages wanted that are not essential? -/
def chatty (w : Writer) : Bool := w.forPeople && !w.quiet

def line (s : String) : String := s ++ "\n"

/-- A line, painted if colours are wanted. -/
def paintedLine (w : Writer) (p : Paint) (s : String) : String :=
  line (if w.color then p.apply s else s)

/-- Mirrors `OutputWriter.info`. -/
def info (w : Writer) (message : String) : String :=
  if !w.chatty then ""
  else if w.color then line (Paint.blue.apply "ℹ" ++ " " ++ message)
  else line ("INFO: " ++ message)

/-- Mirrors `OutputWriter.success`. -/
def success (w : Writer) (message : String) : String :=
  if w.chatty then w.paintedLine .green message else ""

/-- Mirrors `OutputWriter.warning`. -/
def warning (w : Writer) (message : String) : String :=
  if !w.forPeople then ""
  else if w.color then w.paintedLine .yellow message
  else line ("WARNING: " ++ message)

/-- A heading behind an empty line; mirrors `OutputWriter.section`. -/
def heading (w : Writer) (title : String) : String :=
  if !w.chatty then ""
  else if w.color then line "" ++ w.paintedLine .brightBlue ("═══ " ++ title ++ " ═══")
  else line "" ++ line ("=== " ++ title ++ " ===")

/-- Text with a line end behind it unless it has one; mirrors `OutputWriter.emit`. -/
def closeLine (s : String) : String := if s.toList.getLast? = some '\n' then s else line s

/-- Mirrors `OutputWriter.data`. -/
def data (w : Writer) (v : Json) : String := closeLine (w.layout.render v)

/-- The text of a summary, without a line end of its own in most layouts; mirrors
`OutputFormat.format_report`. -/
def reportText (l : Layout) (s : Summary) : String :=
  if l = .human then Human.reportText s else l.render s.toJson

/-- Mirrors `OutputWriter.report`. -/
def report (w : Writer) (s : Summary) : String := closeLine (reportText w.layout s)

/-- The text of chains, without a line end of its own in most layouts; mirrors
`OutputFormat.format_chains`. -/
def chainsText (l : Layout) (ds : List ChainOutline) : String :=
  if l = .human then Human.chainsText ds
  else l.render (.array (ds.map ChainOutline.toJson))

/-- Mirrors `OutputWriter.chains`. -/
def chains (w : Writer) (ds : List ChainOutline) : String := closeLine (chainsText w.layout ds)

end Writer

namespace Table

/-- A cell with blanks behind it up to a width. -/
def pad (width : Nat) (cell : String) : String :=
  cell ++ String.ofList (List.replicate (width - cell.length) ' ')

/-- The widths of the columns, grown so that the cells of a row fit. -/
def widen : List Nat → List String → List Nat
  | w :: ws, cell :: cells => max w cell.length :: widen ws cells
  | ws, _ => ws

/-- The width of each column. -/
def widths (headers : List String) (rows : List (List String)) : List Nat :=
  rows.foldl widen (headers.map String.length)

/-- The cells of a row at the widths of the columns; further cells are kept as they are. -/
def padRow : List Nat → List String → List String
  | w :: ws, cell :: cells => pad w cell :: padRow ws cells
  | _, cells => cells

def rowText (ws : List Nat) (cells : List String) : String := " │ ".intercalate (padRow ws cells)

/-- The line below the headers. -/
def ruler (ws : List Nat) : String :=
  "─┼─".intercalate (ws.map fun w => String.ofList (List.replicate w '─'))

/-- The lines of a table: the headers, the ruler and the rows, which end without blanks. -/
def lines (headers : List String) (rows : List (List String)) : List String :=
  let ws := widths headers rows
  rowText ws headers :: ruler ws :: rows.map fun r => Human.trimmed (rowText ws r)

end Table

/-- A table with its headers in bold; mirrors `OutputWriter.table`. -/
def Writer.table (w : Writer) (headers : List String) (rows : List (List String)) : String :=
  if !w.chatty then ""
  else
    match Table.lines headers rows with
    | [] => ""
    | head :: rest => w.paintedLine .bold head ++ String.join (rest.map Writer.line)

end RequestValidation
