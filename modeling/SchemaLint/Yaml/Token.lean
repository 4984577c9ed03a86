import SchemaLint.Yaml.Fault

/-!
# Tokens of YAML texts

Besides what is written, there are tokens for the starts and ends that indentation tells, and for keys
that nothing but the colon behind them tells.
-/

namespace SchemaLint.Yaml

/-- What a token is. A plain scalar stands without quotes and may be a number or the like. -/
inductive Lexeme where
  | streamEnd
  | documentStart
  | documentEnd
  | blockSequence
  | blockMapping
  | blockEnd
  | openSequence
  | closeSequence
  | openMapping
  | closeMapping
  | entry
  | comma
  | key
  | value
  | reference (name : String)
  | anchor (name : String)
  | scalar (text : String) (plain : Bool)
  deriving DecidableEq, Repr

/-- How a token is shown in messages. -/
def Lexeme.describe : Lexeme → String
  | streamEnd => "<stream end>"
  | documentStart => "<document start>"
  | documentEnd => "<document end>"
  | blockSequence => "<block sequence start>"
  | blockMapping => "<block mapping start>"
  | blockEnd => "<block end>"
  | openSequence => "["
  | closeSequence => "]"
  | openMapping => "\x7b"
  | closeMapping => "\x7d"
  | entry => "-"
  | comma => ","
  | key => "?"
  | value => ":"
  | reference _ => "<alias>"
  | anchor _ => "<anchor>"
  | scalar .. => "<scalar>"

/-- A token and its place. -/
structure Token where
  lexeme : Lexeme
  mark : Mark
  deriving DecidableEq, Repr

/-- A fault at a token. -/
def Token.fault (t : Token) (cause : String → FaultCause) : Fault :=
  ⟨cause t.lexeme.describe, some t.mark⟩

end SchemaLint.Yaml
