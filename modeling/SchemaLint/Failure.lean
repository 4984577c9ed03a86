import SchemaLint.Problem
import SchemaLint.Text.Utf8
import SchemaLint.Trouble

/-!
# Failures

Everything that can stop the linter: a problem that it has words for, or trouble with a file, with the
encoding of a file, with a path that holds a null character, with a home folder that nobody knows, with
a configuration key that is no text and cannot be named, with a number in a configuration, with
collections that lie too deep in each other, or with anything outside the linter.
-/

namespace SchemaLint

/-- What stops the linter. -/
inductive Failure where
  | problem (p : Problem)
  | textlessKeys (keys : List Value)
  | number (fault : NumberFault)
  | tooDeep
  | undecodable (fault : Text.Utf8.Fault)
  | file (fault : FileFault) (path : String)
  | nullInPath
  | nullInResolvedPath
  | homeless
  | trouble (t : Trouble)

namespace Failure

/-- What a key that is no text is called. -/
def keyKind : Value → String
  | .null => "NoneType"
  | .bool _ => "bool"
  | .int _ => "int"
  | .float _ => "float"
  | .str _ => "str"
  | .list _ => "list"
  | .map _ => "dict"
  | .loop _ content => keyKind content
  | .back _ => "dict"
  | .other o => o.kind

/-- The key has a place among keys that count as numbers. -/
def isNumberKind (kind : String) : Bool := ["bool", "int", "float"].contains kind

/-- The wording of keys that cannot be named: keys of different kinds cannot be put in order, apart from
those that count as numbers; without that, the first key in order is told. -/
def textlessMessage (keys : List Value) : String :=
  let kinds := keys.map keyKind
  let least := keys.foldl (fun best v =>
    match best with
    | none => some v
    | some b => if v.isLess b then some v else best) none
  let clash := kinds.find? fun k => !isNumberKind k && kinds.any (· != k)
  match clash with
  | some k =>
    let other := (kinds.find? (· != k)).getD k
    s!"'<' not supported between instances of '{k}' and '{other}'"
  | none =>
    let kind := (least.map keyKind).getD "NoneType"
    s!"sequence item 0: expected str instance, {kind} found"

/-- The failure that a value cannot be written. -/
def ofWriteFault : WriteFault → Failure
  | .number => .number .unwritable
  | .tooDeep => .tooDeep

/-- The failure that a fault of a configuration is. There is room for so many values within each other
when the fault is told. -/
def ofOptions (room : Nat) (fault : OptionsFault) (span : Span := .unknown) : Failure :=
  match fault.writeFault? room with
  | some fault => ofWriteFault fault
  | none => .problem (.ofOptions fault span)

/-- The wording of a failure. -/
def message : Failure → String
  | problem p => p.text
  | textlessKeys keys => textlessMessage keys
  | number fault => fault.message
  | tooDeep => WriteFault.tooDeep.message
  | undecodable fault => fault.message
  | file fault path => fault.message path
  | nullInPath => "embedded null byte"
  | nullInResolvedPath => "lstat: embedded null character in path"
  | homeless => "Could not determine home directory."
  | trouble t => t.message

/-- The failure is that nobody is at the other end of a pipe any more. -/
def isBrokenPipe : Failure → Bool
  | file fault _ | trouble (.fault fault) => fault.isBrokenPipe
  | _ => false

end Failure
end SchemaLint
