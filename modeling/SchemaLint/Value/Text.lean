import SchemaLint.Value.Basic
import SchemaLint.Number.Fault
import SchemaLint.Number.Shortest
import SchemaLint.Text.Quoted

/-!
# Text of configuration values

How a value is shown in messages: texts between quotes, lists between brackets, maps between braces,
and the words `True`, `False` and `None`. A list or a map that stands within itself is shown by three
dots there. A text that stands alone may also be taken without quotes.

A value cannot be shown if it holds a whole number of too many digits. Nor can it be if it holds values
within values too deep, as each of them takes a call of the one that shows it, for which there is only
so much room.
-/

namespace SchemaLint.Value

/-- What is shown of a list or a map within itself. -/
def elided : Value → String
  | .map _ => "\x7b...\x7d"
  | _ => "[...]"

mutual

/-- The value as it is shown within loops of some numbers, each with what is shown of it. -/
def shownWithin (loops : List (Nat × String)) : Value → String
  | .null => "None"
  | .bool true => "True"
  | .bool false => "False"
  | .int n => toString n
  | .float x => x.text
  | .str s => Text.quoted s
  | .list items => "[" ++ ", ".intercalate (shownItems loops items) ++ "]"
  | .map entries => "\x7b" ++ ", ".intercalate (shownEntries loops entries) ++ "\x7d"
  | .loop number content =>
    match loops.lookup number with
    | some text => text
    | none => shownWithin ((number, content.elided) :: loops) content
  | .back number => (loops.lookup number).getD "..."
  | .other o => o.shown

/-- The items of a list as they are shown. -/
def shownItems (loops : List (Nat × String)) : List Value → List String
  | [] => []
  | v :: rest => shownWithin loops v :: shownItems loops rest

/-- The entries of a map as they are shown. -/
def shownEntries (loops : List (Nat × String)) : List (Value × Value) → List String
  | [] => []
  | (k, v) :: rest =>
    (shownWithin loops k ++ ": " ++ shownWithin loops v) :: shownEntries loops rest

end

/-- The value as it is shown in a message. -/
def shown (v : Value) : String := shownWithin [] v

/-- The room for values within values that there is unless something else is known. -/
def defaultRoom : Nat := 1000

mutual

/-- Why the value cannot be written, if there is room for so many values within each other: of all
reasons the first in the order of writing. -/
def writeFault? : Value → Nat → Option WriteFault
  | _, 0 => some .tooDeep
  | .int n, _ + 1 => if Number.isWritable n then none else some .number
  | .list items, room + 1 => itemsFault? items room
  | .map entries, room + 1 => entriesFault? entries room
  | .loop _ content, room + 1 => writeFault? content (room + 1)
  | .other o, room + 1 => o.fault (room + 1)
  | _, _ + 1 => none

/-- Why the items of a list cannot be written. -/
def itemsFault? : List Value → Nat → Option WriteFault
  | [], _ => none
  | v :: rest, room => (writeFault? v room).or (itemsFault? rest room)

/-- Why the entries of a map cannot be written. -/
def entriesFault? : List (Value × Value) → Nat → Option WriteFault
  | [], _ => none
  | (k, v) :: rest, room =>
    ((writeFault? k room).or (writeFault? v room)).or (entriesFault? rest room)

end

/-- The value as plain text: a text as it is, any other value as it is shown. -/
def plain : Value → String
  | .str s => s
  | .other o => o.plain
  | v => shown v

end SchemaLint.Value
