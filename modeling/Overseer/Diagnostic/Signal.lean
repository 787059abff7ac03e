import Overseer.Diagnostic.Classifier

/-! ## Signals

A line may decide how the run goes on. A line about an unsupported feature makes the result unknown;
the completion mark ends the run well; an error that the classifier could not turn into a finding
ends it badly. The first of these that holds is the signal of the line. -/

namespace Overseer

inductive Signal where
  /-- The line decides nothing. -/
  | none
  | unsupportedFeature
  | completion
  | unclassifiedError
deriving DecidableEq

namespace Signal

/-- Stands in every line that reports an error. -/
def errorMark : Text := ": error:".toList

/-- The warnings after which the analyser guarantees nothing, as written. -/
def unsupportedTexts : List Text := [
  ": warning: ignoring call of undefined function: ".toList,
  ": warning: conditional jump depends on uninitialized value".toList,
  ": warning: possible .*flow of .* integer".toList]

/-- What the analyser writes when it is done, as written. -/
def completionText : Text := "clEasyRun\\(\\) took".toList

/-- The patterns that a list of texts writes. -/
def readAll (texts : List Text) : List Pattern := texts.filterMap fun s => (Pattern.read s).toOption

-- Irreducible, so that unfolding the signal of a line does not read the patterns again.
@[irreducible] def unsupportedPatterns : List Pattern := readAll unsupportedTexts

@[irreducible] def completionPatterns : List Pattern := readAll [completionText]

theorem length_unsupportedPatterns : unsupportedPatterns.length = 3 := by decide +kernel

theorem length_completionPatterns : completionPatterns.length = 1 := by decide +kernel

/-- Whether one of the patterns occurs in a line. -/
def anyOccurs (ps : List Pattern) (line : Text) : Bool := ps.any fun p => p.search line

/-- The signal of a line, given what the classifier made of it. -/
def detect (line : Text) (c : Classification) : Signal :=
  if anyOccurs unsupportedPatterns line then .unsupportedFeature
  else if anyOccurs completionPatterns line then .completion
  else if errorMark.occursIn line && c.findings.isEmpty && !c.isTrace then .unclassifiedError
  else .none

/-- Whether the run is over. -/
def isTerminal (s : Signal) : Bool := s ≠ .none

end Signal

/-- The signal of a line by a table. -/
def Classifier.signal (c : Classifier) (line : Text) : Signal := Signal.detect line (c.classify line)

end Overseer
