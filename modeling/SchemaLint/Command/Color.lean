/-!
# Colour modes

Whether text is coloured can be decided once and for all, or by where it is written.
-/

namespace SchemaLint

/-- When text is coloured. -/
inductive ColorMode where
  | auto | always | never
  deriving DecidableEq, Repr

namespace ColorMode

/-- All modes. -/
def all : List ColorMode := [auto, always, never]

/-- The name of a mode. -/
def name : ColorMode → String
  | auto => "auto"
  | always => "always"
  | never => "never"

/-- The mode of a name. -/
def ofName? (s : String) : Option ColorMode := all.find? (·.name == s)

/-- Text is coloured in a mode. If the mode leaves it open, it is coloured on a terminal unless the
user objects to colours. -/
def decide (mode : ColorMode) (objection terminal : Bool) : Bool :=
  match mode with
  | always => true
  | never => false
  | auto => !objection && terminal

end ColorMode
end SchemaLint
