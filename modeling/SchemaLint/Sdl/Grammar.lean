import SchemaLint.Sdl.Document
import SchemaLint.Sdl.Lexer

/-!
# The grammar

Documents are read from their tokens by recursive descent with one token of lookahead; comments do
not count. What is nested (list types, lists, objects, selections) may be 200 levels deep: the language
sets no such limit, but the parser that is described here does, and refuses the document as any other
that it cannot read. Readers of nested things take the number of levels that are left. A parser with
another limit, or one that breaks down on deep documents, is one of other resources.

The grammar knows the operations and fragments of the query language too: a text that holds them is
read to its end before it is refused as a schema.
-/

namespace SchemaLint.Sdl

/-- A reader takes some tokens from the front, or finds a fault. It is told the fault of the text
behind the tokens, if there is one, and cannot change it. -/
abbrev Reader := ReaderT (Option Fault) (StateT (List Token) (Except Fault))

namespace Reader

/-- The token `n` places ahead; the end of the text counts as a token, whose position is not known
here. -/
def lookAhead (n : Nat) : Reader Token := do
  match (← get)[n]?, ← read with
  | some t, _ => return t
  | none, none => return ⟨.endOfFile, .unknown⟩
  | none, some f => throw f

/-- The next token. -/
def peek : Reader Token := lookAhead 0

/-- Passes over the next token. The one behind it has to be a token, even if it is not looked at. -/
def advance : Reader Unit := do
  modify (·.drop 1)
  let _ ← peek

/-- More than the number of tokens that are left: enough for any loop that takes one each time. -/
def bound : Reader Nat := do return (← get).length + 1

/-- The next token is not expected. -/
def unexpected {α : Type} : Reader α := do
  let t ← peek
  throw ⟨.unexpected t.lexeme, t.position⟩

/-- The next token is the punctuator. -/
def sees (p : Punct) : Reader Bool := do return (← peek).lexeme == .punct p

/-- The next token is the keyword. -/
def seesKeyword (word : String) : Reader Bool := do return (← peek).lexeme == .name word

/-- Takes the punctuator if it comes next. -/
def accept (p : Punct) : Reader Bool := do
  if ← sees p then advance; return true
  return false

/-- Takes the keyword if it comes next. -/
def acceptKeyword (word : String) : Reader Bool := do
  if ← seesKeyword word then advance; return true
  return false

/-- Takes the punctuator. -/
def expect (p : Punct) : Reader Unit := do
  let t ← peek
  if t.lexeme = .punct p then advance
  else throw ⟨.expectedPunct p t.lexeme, t.position⟩

/-- Takes the keyword. -/
def expectKeyword (word : String) : Reader Unit := do
  let t ← peek
  if t.lexeme = .name word then advance
  else throw ⟨.expectedKeyword word t.lexeme, t.position⟩

/-- Takes a name. -/
def name : Reader Ident := do
  let t ← peek
  match t.lexeme with
  | .name s => advance; return ⟨s, t.position⟩
  | l => throw ⟨.expectedName l, t.position⟩

section Repetition
variable {α : Type}

/-- Items up to the closing punctuator. -/
def untilClosed (close : Punct) (item : Reader α) : Nat → Reader (List α)
  | 0 => return []
  | fuel + 1 => do
    if ← accept close then return []
    let x ← item
    return x :: (← untilClosed close item fuel)

/-- Items between two punctuators. -/
def between («open» close : Punct) (item : Reader α) : Reader (List α) := do
  expect «open»
  untilClosed close item (← bound)

/-- One or more items between two punctuators. -/
def someBetween («open» close : Punct) (item : Reader α) : Reader (List α) := do
  expect «open»
  let x ← item
  return x :: (← untilClosed close item (← bound))

/-- One or more items between two punctuators, or nothing. -/
def optionalBetween («open» close : Punct) (item : Reader α) : Reader (List α) := do
  if ← sees «open» then someBetween «open» close item else return []

/-- Further items, each behind the separator. -/
def separatedRest (separator : Punct) (item : Reader α) : Nat → Reader (List α)
  | 0 => return []
  | fuel + 1 => do
    if ← accept separator then
      let x ← item
      return x :: (← separatedRest separator item fuel)
    return []

/-- One or more items with the separator between them and, if wanted, in front. -/
def separated (separator : Punct) (item : Reader α) : Reader (List α) := do
  let _ ← accept separator
  let x ← item
  return x :: (← separatedRest separator item (← bound))

/-- Items for as long as the punctuator comes next. -/
def whileSeen (p : Punct) (item : Reader α) : Nat → Reader (List α)
  | 0 => return []
  | fuel + 1 => do
    if ← sees p then
      let x ← item
      return x :: (← whileSeen p item fuel)
    return []

end Repetition

/-- Number of levels that nested things may have before the parser refuses to go on. -/
def maxDepth : Nat := 200

/-- The next token is one level too deep. -/
def tooDeep {α : Type} : Reader α := do
  throw ⟨.nestedTooDeeply, (← peek).position⟩

/-! ## Types -/

/-- The mark of a required type. -/
def requiredMark : Reader Bool := accept .bang

/-- A type. -/
def typeExpr (depth : Nat) : Reader TypeExpr := do
  let t ← peek
  if ← accept .bracketL then
    match depth with
    | 0 => tooDeep
    | depth + 1 =>
      let item ← typeExpr depth
      expect .bracketR
      return .list t.position item (← requiredMark)
  else
    let n ← name
    return .named n (← requiredMark)

/-! ## Values and directives -/

/-- A member of an object value. -/
def objectMember (value : Reader Unit) : Reader Unit := do
  let _ ← name
  expect .colon
  value

/-- A value; a constant one holds no variables. -/
def value (constant : Bool) (depth : Nat) : Reader Unit := do
  let t ← peek
  match t.lexeme with
  | .punct .bracketL =>
    match depth with
    | 0 => tooDeep
    | depth + 1 => do
      let _ ← between .bracketL .bracketR (value constant depth)
  | .punct .braceL =>
    match depth with
    | 0 => tooDeep
    | depth + 1 => do
      let _ ← between .braceL .braceR (objectMember (value constant depth))
  | .int _ | .float _ | .string _ | .blockString _ | .name _ => advance
  | .punct .dollar =>
    if constant then
      let next ← lookAhead 1
      match next.lexeme with
      | .name s => throw ⟨.variableInConstant s, t.position⟩
      | _ => throw ⟨.unexpected t.lexeme, t.position⟩
    else
      advance
      let _ ← name
  | _ => unexpected

/-- An argument that is passed to a field or a directive. -/
def passedArgument (constant : Bool) (depth : Nat) : Reader Unit := do
  let _ ← name
  expect .colon
  value constant depth

/-- The arguments that are passed to a field or a directive, if any. -/
def passedArguments (constant : Bool) (depth : Nat) : Reader Unit := do
  let _ ← optionalBetween .parenL .parenR (passedArgument constant depth)

/-- An applied directive. -/
def appliedDirective (constant : Bool) (depth : Nat) : Reader Unit := do
  expect .at
  let _ ← name
  passedArguments constant depth

/-- Applied directives; the answer tells whether there are any. -/
def appliedDirectives (constant : Bool) (depth : Nat) : Reader Bool := do
  return !(← whileSeen .at (appliedDirective constant depth) (← bound)).isEmpty

/-- Applied directives of a definition. -/
def constDirectives : Reader Bool := appliedDirectives true maxDepth

/-! ## Definitions of types -/

/-- The next token is a string. -/
def seesDescription : Reader Bool := do
  match (← peek).lexeme with
  | .string _ | .blockString _ => return true
  | _ => return false

/-- Passes over a description. -/
def description : Reader Unit := do
  if ← seesDescription then advance

/-- A value that stands for an argument that is not passed. -/
def defaultValue : Reader Unit := do
  if ← accept .equals then value true maxDepth

/-- The definition of an argument. -/
def argumentNode : Reader ArgumentNode := do
  description
  let n ← name
  expect .colon
  let t ← typeExpr maxDepth
  defaultValue
  let _ ← constDirectives
  return ⟨n, t⟩

/-- The arguments of a field or a directive definition, if any. -/
def argumentNodes : Reader (List ArgumentNode) :=
  optionalBetween .parenL .parenR argumentNode

/-- The definition of a field. -/
def fieldNode : Reader FieldNode := do
  description
  let n ← name
  let args ← argumentNodes
  expect .colon
  let t ← typeExpr maxDepth
  let _ ← constDirectives
  return ⟨n, args, t⟩

/-- The fields of an object or interface type, if any. -/
def fieldNodes : Reader (List FieldNode) := optionalBetween .braceL .braceR fieldNode

/-- The fields of an input type, if any. -/
def inputFieldNodes : Reader (List FieldNode) := do
  let inputs ← optionalBetween .braceL .braceR argumentNode
  return inputs.map fun a => ⟨a.name, [], a.type⟩

/-- The interfaces that a type implements, if any. -/
def interfaceNames : Reader (List Ident) := do
  if ← acceptKeyword "implements" then separated .amp name else return []

/-- The members of a union, if any. -/
def memberNames : Reader (List Ident) := do
  if ← accept .equals then separated .pipe name else return []

/-- The definition of an enum value. -/
def enumValue : Reader Ident := do
  description
  let t ← peek
  if ["true", "false", "null"].any (t.lexeme.value? == some ·) then
    throw ⟨.reservedEnumValue t.lexeme, t.position⟩
  let n ← name
  let _ ← constDirectives
  return n

/-- The keywords of type definitions. -/
inductive TypeKeyword where
  | scalar | object | interface | union | enum | input
  deriving DecidableEq

/-- The word of a type definition. -/
def TypeKeyword.ofText? (word : String) : Option TypeKeyword :=
  match word with
  | "scalar" => some .scalar
  | "type" => some .object
  | "interface" => some .interface
  | "union" => some .union
  | "enum" => some .enum
  | "input" => some .input
  | _ => none

/-- What follows the name of a type; the second answer tells whether anything does. -/
def typeBody : TypeKeyword → Reader (TypeBody × Bool)
  | .scalar => do return (.scalar, ← constDirectives)
  | .object => do
    let interfaces ← interfaceNames
    let directives ← constDirectives
    let fields ← fieldNodes
    return (.object interfaces fields, !interfaces.isEmpty || directives || !fields.isEmpty)
  | .interface => do
    let interfaces ← interfaceNames
    let directives ← constDirectives
    let fields ← fieldNodes
    return (.interface interfaces fields, !interfaces.isEmpty || directives || !fields.isEmpty)
  | .union => do
    let directives ← constDirectives
    let members ← memberNames
    return (.union members, directives || !members.isEmpty)
  | .enum => do
    let directives ← constDirectives
    let values ← optionalBetween .braceL .braceR enumValue
    return (.enum values, directives || !values.isEmpty)
  | .input => do
    let directives ← constDirectives
    let fields ← inputFieldNodes
    return (.input fields, directives || !fields.isEmpty)

/-- A type definition from its keyword on. -/
def typeDefinition («extends» : Bool) (keyword : TypeKeyword) : Reader Definition := do
  advance
  let n ← name
  let (body, some_) ← typeBody keyword
  if «extends» && !some_ then unexpected
  return .type «extends» n body

/-! ## Other definitions of a schema -/

/-- The root type of an operation. -/
def rootNode : Reader RootNode := do
  let op ← name
  match Operation.ofText? op.text with
  | none => throw ⟨.unexpected (.name op.text), op.position⟩
  | some operation =>
    expect .colon
    return ⟨operation, ← name⟩

/-- A schema definition from its keyword on; `position` is where it starts. -/
def schemaDefinition (position : Position) : Reader Definition := do
  advance
  let _ ← constDirectives
  return .schema false position (← someBetween .braceL .braceR rootNode)

/-- A schema extension from its keyword on. -/
def schemaExtension (position : Position) : Reader Definition := do
  advance
  let directives ← constDirectives
  let roots ← optionalBetween .braceL .braceR rootNode
  if !directives && roots.isEmpty then unexpected
  return .schema true position roots

/-- The places where a directive may be applied. -/
def directiveLocations : List String :=
  ["QUERY", "MUTATION", "SUBSCRIPTION", "FIELD", "FRAGMENT_DEFINITION", "FRAGMENT_SPREAD",
    "INLINE_FRAGMENT", "VARIABLE_DEFINITION", "FRAGMENT_VARIABLE_DEFINITION", "SCHEMA", "SCALAR",
    "OBJECT", "FIELD_DEFINITION", "ARGUMENT_DEFINITION", "INTERFACE", "UNION", "ENUM",
    "ENUM_VALUE", "INPUT_OBJECT", "INPUT_FIELD_DEFINITION", "DIRECTIVE_DEFINITION"]

/-- A place where a directive may be applied. -/
def directiveLocation : Reader Unit := do
  let n ← name
  if !directiveLocations.contains n.text then throw ⟨.unexpected (.name n.text), n.position⟩

/-- A directive definition from its keyword on. -/
def directiveDefinition : Reader Definition := do
  advance
  expect .at
  let n ← name
  let args ← argumentNodes
  let _ ← constDirectives
  let _ ← acceptKeyword "repeatable"
  expectKeyword "on"
  let _ ← separated .pipe directiveLocation
  return .directive false n args

/-- A directive extension from its keyword on. -/
def directiveExtension : Reader Definition := do
  advance
  expect .at
  let n ← name
  if !(← constDirectives) then unexpected
  return .directive true n []

/-- An extension from the word `extend` on. -/
def extension : Reader Definition := do
  let start ← peek
  let keyword ← lookAhead 1
  match keyword.lexeme with
  | .name "schema" => advance; schemaExtension start.position
  | .name "directive" => advance; directiveExtension
  | .name word =>
    match TypeKeyword.ofText? word with
    | some k => advance; typeDefinition true k
    | none => throw ⟨.unexpected keyword.lexeme, keyword.position⟩
  | l => throw ⟨.unexpected l, keyword.position⟩

/-! ## Operations and fragments -/

/-- The definition of a variable. -/
def variableDefinition : Reader Unit := do
  description
  expect .dollar
  let _ ← name
  expect .colon
  let _ ← typeExpr maxDepth
  defaultValue
  let _ ← constDirectives

/-- A named field with what it selects. -/
def selectedField (depth : Nat) (selections : Reader Unit) : Reader Unit := do
  let _ ← name
  if ← accept .colon then
    let _ ← name
  passedArguments false depth
  let _ ← appliedDirectives false depth
  if ← sees .braceL then selections

/-- A fragment that is spread or written in place. -/
def selectedFragment (depth : Nat) (selections : Reader Unit) : Reader Unit := do
  expect .spread
  let conditional ← acceptKeyword "on"
  match conditional, (← peek).lexeme with
  | false, .name _ =>
    advance
    let _ ← appliedDirectives false depth
  | _, _ =>
    if conditional then
      let _ ← name
    let _ ← appliedDirectives false depth
    selections

/-- One selection. -/
def selection (depth : Nat) (selections : Reader Unit) : Reader Unit := do
  if ← sees .spread then selectedFragment depth selections else selectedField depth selections

/-- Selections between braces. -/
def selections (depth : Nat) : Reader Unit := do
  match depth with
  | 0 => tooDeep
  | depth + 1 =>
    let _ ← between .braceL .braceR (selection depth (selections depth))

/-- An operation from its keyword on; it stands at its name, or at `position` if it has none. -/
def operationDefinition (position : Position) : Reader Definition := do
  advance
  let next ← peek
  let p ← match next.lexeme with
    | .name _ => do advance; pure next.position
    | _ => pure position
  let _ ← optionalBetween .parenL .parenR variableDefinition
  let _ ← appliedDirectives false maxDepth
  selections maxDepth
  return .operation p

/-- A fragment from its keyword on. No token that carries the text `on` may stand in place of its
name. -/
def fragmentDefinition : Reader Definition := do
  advance
  if (← peek).lexeme.value? = some "on" then unexpected
  let n ← name
  expectKeyword "on"
  let _ ← name
  let _ ← appliedDirectives false maxDepth
  selections maxDepth
  return .fragment n.position

/-! ## Documents -/

/-- A definition that has a keyword, behind its description if it has one; `none` if the keyword is
none of a definition that may have a description. -/
def describable (position : Position) (word : String) : Option (Reader Definition) :=
  match word with
  | "schema" => some (schemaDefinition position)
  | "directive" => some directiveDefinition
  | "query" | "mutation" | "subscription" => some (operationDefinition position)
  | "fragment" => some fragmentDefinition
  | _ => (TypeKeyword.ofText? word).map (typeDefinition false)

/-- A definition. -/
def definition : Reader Definition := do
  let first ← peek
  if first.lexeme = .punct .braceL then
    selections maxDepth
    return .operation first.position
  let described ← seesDescription
  let keyword ← lookAhead (if described then 1 else 0)
  match keyword.lexeme with
  | .name word =>
    match describable first.position word with
    | some rest => description; rest
    | none =>
      if described then throw ⟨.describedOther, first.position⟩
      else if word = "extend" then extension
      else unexpected
  | .punct .braceL => throw ⟨.describedQuery, first.position⟩
  | l => throw ⟨.unexpected l, keyword.position⟩

/-- The definitions up to the end of the text. -/
def definitions : Nat → Reader (List Definition)
  | 0 => unexpected
  | fuel + 1 => do
    let _ ← peek
    if (← get).isEmpty then return []
    let d ← definition
    return d :: (← definitions fuel)

end Reader

/-- The fault with the position `p` if it has none. -/
def Fault.placed (p : Position) (f : Fault) : Fault :=
  if f.position = .unknown then { f with position := p } else f

/-- Runs a reader on the tokens of a text other than its comments. A fault at the end of the text is
put there. -/
def TokenStream.read {α : Type} (stream : TokenStream) (reader : Reader α) : Except Fault α :=
  let tokens := stream.tokens.filter (!·.isComment)
  match stream.ending with
  | .endOfFile p => ((reader none tokens).map (·.1)).mapError (·.placed p)
  | .fault f => (reader (some f) tokens).map (·.1)

/-- The document of a text, if the grammar accepts it. A text without any definition is empty, and has
no origin. -/
def Document.read (text source : String) : Except Fault Document := do
  let stream := lex text
  let ds ← stream.read (do Reader.definitions (← Reader.bound))
  return ⟨ds, if ds.isEmpty then none else some ⟨source, stream.tokens⟩⟩

/-- The type that a text holds. -/
def TypeExpr.read (text : String) : Except Fault TypeExpr :=
  (lex text).read do
    let t ← Reader.typeExpr Reader.maxDepth
    let next ← Reader.peek
    if next.lexeme ≠ .endOfFile then Reader.unexpected
    return t

end SchemaLint.Sdl
