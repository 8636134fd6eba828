import ApiGateway.Metrics.Basic
import ApiGateway.Metrics.Decimal

/-!
# The exposition of metrics

Metrics as lines of text for a collector. Every name has a line with its explanation, if there is
one, and a line with its kind; then every series of the name has a line with its value. A
histogram has a line for each bound, one for all measurements under the bound `+Inf`, one for the
sum, and one for their number.
-/

namespace ApiGateway
namespace Metrics

/--
A label value as it is written: backslashes, quotes and line ends are escaped. A backslash in front
of a quote or of another backslash counts as its escape already; the truth value says that such a
backslash is held back.
-/
def escapeLabel : Bool → List Char → List Char
  | held, [] => if held then ['\\', '\\'] else []
  | held, c :: cs =>
      if c = '\n' then '\\' :: 'n' :: escapeLabel held cs
      else if c = '"' then '\\' :: '"' :: escapeLabel false cs
      else if c = '\\' then
        if held then '\\' :: '\\' :: escapeLabel false cs else escapeLabel true cs
      else if held then '\\' :: '\\' :: c :: escapeLabel false cs
      else c :: escapeLabel false cs

/-- A label with its value between quotes. -/
def labelText (l : String × String) : String :=
  l.1 ++ "=\"" ++ String.ofList (escapeLabel false l.2.toList) ++ "\""

/-- Labels between braces; no labels need no braces. -/
def labelsText (labels : List (String × String)) : String :=
  if labels.isEmpty then ""
  else "\x7b" ++ String.intercalate "," (labels.map labelText) ++ "\x7d"

/-- The line of one value. -/
def sampleLine (s : Series) (value : String) : String :=
  s.name ++ labelsText s.labels ++ " " ++ value

def Histogram.lines (s : Series) (h : Histogram) : List String :=
  let bucket (bound : String) (n : Nat) :=
    sampleLine ⟨s.name ++ "_bucket", s.labels ++ [("le", bound)]⟩ (toString n)
  (bounds.zip h.within).map (fun b => bucket (printDouble b.1) b.2)
    ++ [bucket "+Inf" h.count, sampleLine ⟨s.name ++ "_sum", s.labels⟩ (printDouble h.sum),
      sampleLine ⟨s.name ++ "_count", s.labels⟩ (toString h.count)]

def counterLines (m : Metrics) : List String :=
  m.counters.map fun c => sampleLine c.1 (toString c.2)

def gaugeLines (m : Metrics) : List String :=
  m.gauges.map fun g => sampleLine g.1 (printDouble g.2)

/-- The lines in front of the series of a name. -/
def headLines (kind name : String) : List String :=
  ((explanations.lookup name).toList.map fun e => "# HELP " ++ name ++ " " ++ e)
    ++ ["# TYPE " ++ name ++ " " ++ kind]

/-- The blocks of lines for all names of a kind, in the order of the names. -/
def blocks {α : Type} (kind : String) (line : Series → α → List String)
    (series : List (Series × α)) : List (List String) :=
  let names := (series.map (·.1.name)).eraseDups.mergeSort fun a b => decide (a ≤ b)
  names.map fun n =>
    headLines kind n ++ (series.filter (·.1.name = n)).flatMap fun s => line s.1 s.2

/-- The blocks of lines for all names. -/
def allBlocks (m : Metrics) : List (List String) :=
  blocks "counter" (fun s n => [sampleLine s (toString n)]) m.counters
    ++ blocks "gauge" (fun s v => [sampleLine s (printDouble v)]) m.gauges
    ++ blocks "histogram" Histogram.lines m.histograms

/-- The exposition, with an empty line after every block. -/
def print (m : Metrics) : String :=
  String.join (m.allBlocks.map fun b => String.join (b.map (· ++ "\n")) ++ "\n")

end Metrics
end ApiGateway
