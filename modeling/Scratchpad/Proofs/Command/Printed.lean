import Scratchpad.Command.Highlight
import Scratchpad.Command.Run
import Scratchpad.Proofs.Json.Controls
import Scratchpad.Proofs.Json.RoundTrip

/-!
# What is printed as JSON

Both commands that print JSON print one value with a line feed behind it. A reader of the format finds
in it the fields of the result, or the spans of the source text in order (`decode?_printed`).
-/

namespace Scratchpad

open Scratchpad.Json

/-- A result as a reader of JSON finds it. -/
def Execution.Result.data (r : Execution.Result) : Data :=
  .object [("output", .string r.output), ("is_error", .bool r.isError),
    ("exit_code", .number r.exitCode)]

/-- A span as a reader of JSON finds it. -/
def Highlight.Span.data (s : Highlight.Span) : Data :=
  .object [("start", .number s.start), ("end", .number s.stop), ("category", .string s.category.name)]

theorem Highlight.Category.name_injective {a b : Highlight.Category} (h : a.name = b.name) :
    a = b := by
  cases a <;> cases b <;> first | rfl | exact absurd h (by decide)

namespace Json

/-- A text that is one JSON value and stands for `d`. Its strings hold no control characters, and what
is outside them holds none but line feeds. -/
structure StandsFor (text : String) (d : Data) : Prop where
  decode : decode? text.toList = some d
  controls : ∀ x ∈ controlsFrom .outside text.toList, x = (.outside, '\n')

theorem Value.standsFor_text (v : Value) : StandsFor (v.text ++ "\n") v.data := by
  have htext : (v.text ++ "\n").toList = v.layout 0 ++ ['\n'] := by
    rw [String.toList_append, Value.text, String.toList_ofList]
    rfl
  have hends : Ends ['\n'] := ends_lineBreak_append 0 []
  refine ⟨?_, ?_⟩
  · rw [htext]
    exact decode?_layout_append v hends rfl
  · rw [htext]
    exact ((tidy_layout 0 v).append (tidy_lineBreak 0)).controls

end Json

theorem Execution.Result.data_toJson (r : Execution.Result) : r.toJson.data = r.data := rfl

theorem Highlight.data_spansJson (source : String) :
    (spansJson source).data = .array ((highlight source).map Span.data) := by
  rw [spansJson, Value.data, itemsData_eq_map, List.map_map]
  rfl

namespace Command

open Scratchpad.Arguments Scratchpad.Execution

/-- What is printed as JSON is read back as what it was printed for: a result with its output, whatever
characters this holds, its verdict and its exit code, and a source text with its spans in order, where
no two categories have one name. Control characters are printed as escapes only, but for the line
feeds of the layout. -/
theorem decode?_printed :
    (∀ (r : Result) (colour : Bool), StandsFor (shown true colour r) r.data) ∧
      (∀ {σ : Type} (host : Host σ) (service : Service) (options : RunOptions) (colour : Bool) (s : σ)
        (source : String), options.json = true → sourceOf host options s = .ok source →
          ∃ text, (run host service options colour s).1 =
              .ok ((service.execute host source s).1.exitStatus, text) ∧
            StandsFor text (service.execute host source s).1.data) ∧
      (∀ {σ : Type} (host : Host σ) (file : String) (colour : Bool) (s : σ) (source : String),
        host.readText s file = .ok source →
          ∃ text, highlight host file true colour s = .ok text ∧
            StandsFor text (.array ((Highlight.highlight source).map Highlight.Span.data))) ∧
      ∀ a b : Highlight.Category, a.name = b.name → a = b := by
  have hshown : ∀ (r : Result) (colour : Bool), StandsFor (shown true colour r) r.data := by
    intro r colour
    rw [shown, if_pos rfl, ← r.data_toJson]
    exact r.toJson.standsFor_text
  refine ⟨hshown, ?_, ?_, ?_⟩
  · intro σ host service options colour s source hjson hsource
    refine ⟨shown true colour (service.execute host source s).1, ?_, hshown _ colour⟩
    rw [run, hsource, hjson]
  · intro σ host file colour s source hread
    refine ⟨(Highlight.spansJson source).text ++ "\n", ?_, ?_⟩
    · simp only [highlight, hread, if_true]
    · rw [← Highlight.data_spansJson]
      exact (Highlight.spansJson source).standsFor_text
  · intro a b
    exact Highlight.Category.name_injective

/-- A host on which every program is killed after it has written, with one file. -/
def writing : Host Unit where
  hasEntry _ path := path == "a.php"
  hasFile _ path := path == "a.php"
  read _ _ := .ok (Text.encode "é$a".toList)
  standardInput _ := []
  launch _ _ _ := (.finished [⟨.standard, Text.encode "\"\\\x01😀\n".toList⟩] (.killed 9), ())
  makeDirectory _ _ := (none, ())
  makeFile _ _ := .ok ()

theorem decode?_printed_escapes :
    let service : Service := ⟨some ⟨"php", "PHP"⟩⟩
    let options : RunOptions := ⟨none, some "1;", true⟩
    (options.json = true ∧ sourceOf writing options () = .ok "1;" ∧
      ∃ text, (run writing service options true ()).1 = .ok (1, text) ∧
        StandsFor text (Result.data ⟨"\"\\\x01😀\n", true, -1⟩)) ∧
      writing.readText () "a.php" = .ok "é$a" ∧
        ∃ text, highlight writing "a.php" true true () = .ok text ∧
          StandsFor text (.array ([⟨0, 2, .plain⟩, ⟨2, 4, .variableName⟩].map
            Highlight.Span.data)) := by
  intro service options
  have hresult : (service.execute writing "1;" ()).1 = ⟨"\"\\\x01😀\n", true, -1⟩ := by
    decide +kernel
  have hspans : Highlight.highlight "é$a" = [⟨0, 2, .plain⟩, ⟨2, 4, .variableName⟩] := by
    decide +kernel
  have hread : writing.readText () "a.php" = .ok "é$a" := by
    have hdecode : Text.decode? (Text.encode "é$a".toList) = some "é$a".toList := by
      decide +kernel
    rw [Host.readText, writing, Except.bind, Host.textOf, hdecode]
    simp only [String.ofList_toList]
  obtain ⟨-, hrun, hhighlight, -⟩ := decode?_printed
  have hprinted := hrun writing service options true () "1;" rfl rfl
  have hlisted := hhighlight writing "a.php" true () _ hread
  rw [hresult] at hprinted
  rw [hspans] at hlisted
  exact ⟨⟨rfl, rfl, hprinted⟩, hread, hlisted⟩

end Command

end Scratchpad
