import Throughput.Binary64.Text
import Throughput.Summary

/-! The printed form of a summary, plain and with terminal colours. -/

namespace Throughput

inductive TextStyle
  | cyan
  | green
  | bold
deriving DecidableEq

namespace TextStyle

def code : TextStyle → String
  | .cyan => "36"
  | .green => "32"
  | .bold => "1"

def escape (parameter : String) : String := "\x1b[" ++ parameter ++ "m"

end TextStyle

structure Styled where
  styles : List TextStyle
  text : String
deriving DecidableEq

namespace Styled

def render (colours : Bool) (piece : Styled) : String :=
  if colours && !piece.styles.isEmpty then
    String.join (piece.styles.map fun style => TextStyle.escape style.code)
      ++ piece.text ++ TextStyle.escape "0"
  else piece.text

end Styled

namespace RateSummary

def rateText (rate : Binary64) : String := rate.twoPlaces ++ " MB/s"

def secondText (second : Binary64) : String := second.text .plain

def text (summary : RateSummary) : String :=
  "Rate Log Summary\n================\n"
    ++ s!"Samples: {summary.samples} ({summary.validSamples} valid)\n"
    ++ (match summary.secondRange with
      | some (low, high) => "Seconds: " ++ secondText low ++ " - " ++ secondText high ++ " s\n"
      | none => "")
    ++ (match summary.mean with
      | some mean => "Mean rate: " ++ rateText mean ++ "\n"
      | none => "")
    ++ (match summary.peak with
      | some peak =>
        "Peak rate: " ++ rateText peak.rate ++ " at " ++ secondText peak.second ++ " s\n"
      | none => "")

def plain (text : String) : Styled := ⟨[], text⟩

def bold (text : String) : Styled := ⟨[.bold], text⟩

def styledLines (summary : RateSummary) : List (List Styled) :=
  let counts := s!": {summary.samples} ({summary.validSamples} valid)"
  let seconds := match summary.secondRange with
    | some (low, high) =>
      [[bold "Seconds", plain (": " ++ secondText low ++ " - " ++ secondText high ++ " s")]]
    | none => []
  let mean := match summary.mean with
    | some mean => [[bold "Mean rate", plain ": ", ⟨[.green], rateText mean⟩]]
    | none => []
  let peak := match summary.peak with
    | some peak =>
      [[bold "Peak rate", plain ": ", ⟨[.green, .bold], rateText peak.rate⟩,
        plain (" at " ++ secondText peak.second ++ " s")]]
    | none => []
  [[⟨[.cyan, .bold], "Rate Log Summary"⟩], [⟨[.cyan], "================"⟩],
    [bold "Samples", plain counts]] ++ seconds ++ mean ++ peak

/-- The printed form for a terminal; without colours it is the plain text. -/
def styledText (colours : Bool) (summary : RateSummary) : String :=
  String.join (summary.styledLines.map fun pieces =>
    String.join (pieces.map (Styled.render colours)) ++ "\n")

end RateSummary

end Throughput
