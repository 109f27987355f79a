import Scaffold.Console.Markup
import Scaffold.Console.Wrap
/-!
Notices: what a run tells its user, and how it looks on a console of eighty columns.
-/

namespace Scaffold.Console

open Scaffold.Text

inductive Notice where
  | header (title : String)
  | success (text : String)
  | warning (text : String)
  | error (text : String)
  | line (text : String)
  | table (title : String) (rows : List (String × String))
deriving DecidableEq

def consoleWidth : Nat := 80

/-- Lines, each with its end. -/
def joinLines (lines : List (List Char)) : List Char :=
  lines.flatMap (· ++ ['\n'])

/-- A text in a style, as markup. -/
def styled (style text : String) : String :=
  "[" ++ style ++ "]" ++ text ++ "[/" ++ style ++ "]"

def printText (markup : String) : Except MarkupFault (List Char) :=
  (plainText markup).map fun cs => joinLines (setLines ⟨consoleWidth, .fold, .natural, true⟩ cs)

def ruling (n : Nat) : List Char := List.replicate n '─'

/-- A rule across the console with a title in its middle. -/
def ruleLine (title : List Char) : List Char :=
  let title := expandTabs (title.map fun c => if c = '\n' then ' ' else c)
  let title := cut .ellipsis (consoleWidth - 4) title
  let side := (consoleWidth - cellCount title) / 2
  let left := ruling (side - 1)
  let right := ruling (min (side + 1) (consoleWidth - left.length - cellCount title))
  setCells consoleWidth (left ++ ' ' :: title ++ ' ' :: right)

/-- A rule with a title between two empty lines. -/
def printHeader (title : String) : Except MarkupFault (List Char) :=
  (plainText (styled "bold bright_cyan" (" " ++ title ++ " "))).map fun cs =>
    joinLines [[], ruleLine cs, []]

/-- The cells that the widest line of a text takes, whatever character ends its lines. -/
def widestLine (cs : List Char) : Nat :=
  ((runsOf (!isLineEnd ·) cs).map cellCount).foldl max 0

/-- The cells that stand beside the columns of a table. -/
def borderWidth : Nat := 3

/-- The width of a column: that of its widest entry with a blank on both sides, as far as the
console reaches. -/
def columnWidth (entries : List (List Char)) : Nat :=
  min (consoleWidth - borderWidth) ((entries.map widestLine).foldl max 0 + 2)

/-- An entry of a table in lines of the width of its column. -/
def entryLines (width : Nat) (wraps : Bool) (cs : List Char) : List (List Char) :=
  if width < 3 then []
  else (setLines ⟨width - 2, .ellipsis, .left, wraps⟩ cs).map fun l => ' ' :: l ++ [' ']

structure Table where
  title : Option (List Char)
  rows : List (List Char × List Char)
  fileWidth : Nat
  statusWidth : Nat

def headings : List Char × List Char := ("File".toList, "Status".toList)

/-- A table whose columns have the widths they need.  If that is too much, the second one gets what
the first one leaves. -/
def Table.of (title : Option (List Char)) (rows : List (List Char × List Char)) : Table :=
  let file := columnWidth ((headings :: rows).map (·.1))
  let status := columnWidth ((headings :: rows).map (·.2))
  ⟨title, rows, file, min status (consoleWidth - borderWidth - file)⟩

def Table.rowLines (t : Table) (border : Char) (row : List Char × List Char) :
    List (List Char) :=
  let file := entryLines t.fileWidth false row.1
  let status := entryLines t.statusWidth true row.2
  (List.range (max 1 (max file.length status.length))).map fun i =>
    border :: (file[i]?.getD (blanks t.fileWidth)) ++
      border :: (status[i]?.getD (blanks t.statusWidth)) ++ [border]

def Table.divider (t : Table) (left mid right dash : Char) : List Char :=
  left :: List.replicate t.fileWidth dash ++ mid :: List.replicate t.statusWidth dash ++ [right]

def Table.lines (t : Table) : List (List Char) :=
  let width := t.fileWidth + t.statusWidth + borderWidth
  let title := t.title.map (setLines ⟨width, .fold, .center, true⟩)
  title.getD [] ++ [t.divider '┏' '┳' '┓' '━'] ++ t.rowLines '┃' headings
    ++ [t.divider '┡' '╇' '┩' '━'] ++ t.rows.flatMap (t.rowLines '│') ++ [t.divider '└' '┴' '┘' '─']

/-- A table and an empty line.  Its columns are looked at one after the other. -/
def printTable (title : String) (rows : List (String × String)) :
    Except MarkupFault (List Char) := do
  let files ← rows.mapM fun r => plainText r.1
  let statuses ← rows.mapM fun r => plainText r.2
  let titled ← plainText title
  let shown := if title.isEmpty then none else some titled
  return joinLines ((Table.of shown (files.zip statuses)).lines ++ [[]])

def Notice.printed : Notice → Except MarkupFault String
  | .header title => (printHeader title).map String.ofList
  | .success text => (printText (styled "bold green" text)).map String.ofList
  | .warning text => (printText (styled "bold yellow" text)).map String.ofList
  | .error text => (printText (styled "bold red" text)).map String.ofList
  | .line text => (printText text).map String.ofList
  | .table title rows => (printTable title rows).map String.ofList

/-- Where notices are shown.  A fault of its markup keeps a notice from being shown, and the markup
may be more than the notice: the diagnostics that parsers add to it are left out here.  What is true
of runs therefore does not hang on the screen. -/
abbrev Screen := Notice → Except MarkupFault Unit

def Screen.terminal : Screen := fun notice => notice.printed.map fun _ => ()

/-- A screen that shows every notice as it is given. -/
def Screen.recording : Screen := fun _ => .ok ()

end Scaffold.Console
