import Stepwise.Yaml.Spot

/-!
# Gaps in scalars

A scalar that goes on over several lines is folded: the spaces and tabs around a line break go, a
single break becomes a space, and of several breaks the first goes.  A separator U+2028 or U+2029
that is the first break stays, and so do all breaks after it.
-/

namespace Stepwise

namespace Yaml

/-- White space inside a scalar that has been passed and may still turn out to end it. -/
structure Gap where
  /-- Whether a line has ended. -/
  broken : Bool
  /-- The spaces and tabs while no line has ended, last first. -/
  white : List Char
  /-- The first line break, unless it was escaped. -/
  first : Option Char
  /-- The other line breaks, last first. -/
  more : List Char

namespace Gap

/-- No white space. -/
def empty : Gap := ⟨false, [], none, []⟩

/-- A line break that was escaped. -/
def escaped : Gap := ⟨true, [], none, []⟩

/-- Whether there is no white space. -/
def isEmpty (g : Gap) : Bool := !g.broken && g.white.isEmpty

/-- Adds a space or a tab. -/
def addWhite (g : Gap) (c : Char) : Gap := if g.broken then g else { g with white := c :: g.white }

/-- Adds a line break. -/
def addBreak (g : Gap) (c : Char) : Gap :=
  if g.broken then { g with more := c :: g.more } else ⟨true, [], some c, []⟩

/-- The characters that the gap stands for. -/
def text (g : Gap) : List Char :=
  if g.broken then
    match g.first with
    | none => g.more.reverse
    | some '\n' => if g.more.isEmpty then [' '] else g.more.reverse
    | some c => c :: g.more.reverse
  else g.white.reverse

/-- Characters, last first, with the gap behind them. -/
def join (g : Gap) (text : List Char) : List Char := g.text.reverse ++ text

end Gap

end Yaml

end Stepwise
