import ChargeLedger.Text.Case
import ChargeLedger.Text.Space

/-!
# Regions and rulesets

A bill run belongs to one of eight regions, each named by a letter, and charges under one of
two rulesets: `presroc` (the scheme before April 2021) and `sroc` (from then on). Requests
name both in text; a region is read upper-cased and trimmed, a ruleset lower-cased and
trimmed.
-/

set_option autoImplicit false

namespace ChargeLedger

/-- A charging region. -/
inductive Region where
  | A | B | E | N | S | T | W | Y
  deriving DecidableEq, Repr, Inhabited

namespace Region

def all : List Region := [.A, .B, .E, .N, .S, .T, .W, .Y]

def name : Region → String
  | .A => "A" | .B => "B" | .E => "E" | .N => "N"
  | .S => "S" | .T => "T" | .W => "W" | .Y => "Y"

def ofName? (s : String) : Option Region := all.find? (fun r => r.name == s)

def normalise (s : String) : String := Case.upperText (Space.trim s)

theorem ofName?_name (r : Region) : ofName? r.name = some r := by
  cases r <;> rfl

end Region

/-- A charging scheme. -/
inductive Ruleset where
  | presroc
  | sroc
  deriving DecidableEq, Repr, Inhabited

namespace Ruleset

def name : Ruleset → String
  | .presroc => "presroc"
  | .sroc => "sroc"

def ofName? (s : String) : Option Ruleset :=
  if s == "presroc" then some .presroc else if s == "sroc" then some .sroc else none

def normalise (s : String) : String := Case.lowerText (Space.trim s)

theorem ofName?_name (r : Ruleset) : ofName? r.name = some r := by
  cases r <;> rfl

end Ruleset

end ChargeLedger
