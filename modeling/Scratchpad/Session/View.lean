import Scratchpad.Highlight.StyledLine
import Scratchpad.Interpreter.Notice
import Scratchpad.Screen.Pane
import Scratchpad.Screen.Viewport
import Scratchpad.Session.Basic

/-!
# What is shown of a session

While the search goes on, a small box tells so; if it found nothing, a larger box tells how to get
an interpreter; after that there is a workspace of four panes. The help lies over all of these. Only
the workspace has a cursor, and the help hides it.
-/

namespace Scratchpad

open Scratchpad.Execution Scratchpad.Highlight Scratchpad.Interpreter Scratchpad.Screen

/-- What a terminal shows: a screen, and a cursor in some column and row unless it is hidden. -/
structure Picture where
  screen : Screen
  cursor : Option (UInt16 × UInt16)
  deriving DecidableEq, Repr

namespace Session

/-- The title of the boxes. -/
def boxTitle : Line := Line.plain "gobi"

/-- The sign that turns while work is in progress, at a beat. -/
def spinner (tick : UInt64) : Char :=
  match (tick % 4).toNat with
  | 0 => '|'
  | 1 => '/'
  | 2 => '-'
  | _ => '\\'

/-- A text behind the turning sign. -/
def busyText (s : Session) (text : String) : String :=
  String.ofList (spinner s.tick :: ' ' :: text.toList)

/-- The box that is shown during the search. -/
def searchingPane (s : Session) : Pane where
  lines := Line.ofOutput (s.busyText "Looking for PHP...")
  title := boxTitle

/-- The box that tells that there is no interpreter, how to get one, and where it was searched. -/
def missingPane (s : Session) : Pane where
  lines :=
    [Line.styled (.emphasis (some .yellow)) missingNotice,
      [],
      Line.plain "To use gobi, you need PHP installed on your system.",
      [],
      Line.styled (.emphasis none) "Install with Homebrew:",
      Line.styled (.coloured .cyan) ("  " ++ installCommand),
      [],
      Line.styled (.emphasis none) "Or download from:",
      Line.styled (.coloured .blue) ("  " ++ downloadAddress),
      [],
      Line.styled (.emphasis none) "Searched locations:"] ++
    s.searched.map (fun path => Line.plain ("  " ++ path)) ++
    [[], Line.styled (.coloured .darkGray) "Press q to quit"]
  title := boxTitle
  flow := .wrapped false

/-- The header: the version of the interpreter. -/
def headerPane (s : Session) : Pane where
  lines := Line.ofOutput (" > " ++ s.version?.getD "")
  style := .coloured .gray

/-- The glyphs of a segment of source text. -/
def glyphsOf (segment : Segment) : Line :=
  Line.ofText { foreground := segment.category.colour } segment.text

/-- The text under edit, scrolled so that its cursor is in sight. -/
def editorPane (s : Session) (a : Area) : Pane where
  lines := (highlightedLines (String.ofList s.editor.text)).map fun line => line.flatMap glyphsOf
  title := some (Line.plain "PHP Code")
  scroll := (scrollOf a s.editor).toNat

/-- The text of the result pane, and its style. -/
def resultText (s : Session) : String × Style :=
  if s.isExecuting then (s.busyText "Running...", .coloured .darkGray)
  else
    match s.result with
    | none => ("Result will display here...", .coloured .darkGray)
    | some r => (r.output, if r.isError then .coloured .red else .plain)

/-- The result. -/
def resultPane (s : Session) : Pane where
  lines := Line.ofOutput s.resultText.1
  title := some (Line.plain "Result")
  style := s.resultText.2
  flow := .wrapped false
  scroll := s.scroll

/-- The status line. -/
def statusPane (s : Session) : Pane where
  lines := Line.ofOutput s.status.message
  style := { foreground := some .white, background := some .darkGray }

/-- The help. -/
def helpPane : Pane where
  lines :=
    ["Editor Help",
      "",
      "  Ctrl+R / F5     - Execute the script",
      "  Ctrl+L          - Clear the result",
      "  PgUp / PgDn     - Scroll the result",
      "  Arrows/Home/End - Move the cursor",
      "  Tab             - Insert four spaces",
      "  F1              - Toggle this help",
      "  Ctrl+C          - Quit"].map Line.plain
  title := some (Line.styled (.emphasis (some .yellow)) "Help")
  flow := .wrapped true

/-- Draws the workspace. -/
def drawWorkspace (s : Session) (panes : Workspace) (screen : Screen) : Screen :=
  screen
    |> s.headerPane.draw panes.header
    |> (s.editorPane panes.editor).draw panes.editor
    |> s.resultPane.draw panes.result
    |> s.statusPane.draw panes.status

/-- Draws the session without the help. -/
def drawBelow (s : Session) (width height : Nat) (screen : Screen) : Screen :=
  match s.discovery with
  | .pending => s.searchingPane.draw (.centred 50 20 width height) screen
  | .unavailable => s.missingPane.draw (.centred 80 80 width height) screen
  | .ready => s.drawWorkspace (.ofSize width height) screen

/-- Draws the help over a screen. -/
def drawHelp (width height : Nat) (screen : Screen) : Screen :=
  let a := Area.centred 70 60 width height
  helpPane.draw a (screen.clear a)

/-- The place of the cursor, if it is shown. -/
def cursor? (s : Session) (width height : Nat) : Option (UInt16 × UInt16) :=
  if s.discovery = .ready ∧ ¬ s.showsHelp then
    let a := (Workspace.ofSize width height).editor
    some (cursorColumn a s.editor, cursorRow a s.editor)
  else none

/-- What a terminal with some columns and rows shows of a session. -/
def view (s : Session) (width height : Nat) : Picture :=
  let below := s.drawBelow width height (.blank width height)
  { screen := if s.showsHelp then drawHelp width height below else below
    cursor := s.cursor? width height }

end Session

end Scratchpad
