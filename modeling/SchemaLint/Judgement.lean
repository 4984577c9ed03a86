import SchemaLint.Schema.Table
import SchemaLint.Text.Basic
import SchemaLint.Word.Plural

/-!
# Judgements

Three questions about names and types have no certain answer: whether a word is a plural, whether a
type models an entity with an identity of its own, and whether a field repeats the name of a type.
Rules ask a judgement, which may leave a question open by answering `none`, and report nothing then.
-/

namespace SchemaLint

/-- Answers to the questions that have no certain answer. -/
structure Judgement where
  isPlural : String → Option Bool
  isEntity : Table → TypeDef → Option Bool
  repeats : Table → Field → Option String

namespace Judgement

/-- Endings of names of types that wrap other things. -/
def wrapperSuffixes : List String :=
  ["Result", "Payload", "Connection", "Edge", "Error", "PageInfo"]

/-- An object type is an entity if it has a scalar or enum field other than `id`, unless it is a root
type, is returned by a mutation, or is named as a wrapper. Without such a field the question stays
open. -/
def entityByShape (wrappers : List String) (table : Table) (t : TypeDef) : Option Bool :=
  if t.kind ≠ .object then some false
  else if table.isRoot t.name || table.mutationResults.contains t.name then some false
  else if wrappers.any (Word.endsWith t.name) then some false
  else if t.fields.any fun f => f.name ≠ "id" && table.isLeaf f.type.name then some true
  else none

/-- The part occurs in the name, letter case aside, and has at least three letters. -/
def occursIn (part name : String) : Bool :=
  3 ≤ part.length &&
    (Text.find? (Unicode.lower part).toList (Unicode.lower name).toList).isSome

/-- A field is called like a type or like its plural, letter case aside. -/
def isCalledAfter (name type : String) : Bool :=
  Unicode.lower name == Unicode.lower type ||
    Unicode.lower name == Unicode.lower (Word.plural type)

/-- A field repeats the name of its owner or of its own type if the name occurs in that of the field.
Fields of root types, allowed fields and built-in scalars are exempt, and a field may be called like
its type. -/
def repeatsByName (allowed : List String) (table : Table) (f : Field) : Option String :=
  if allowed.contains f.name || table.isRoot f.owner then none
  else
    let output := f.type.name
    let outputs :=
      if builtinScalars.contains output || output == f.owner || isCalledAfter f.name output
      then [] else [output]
    (f.owner :: outputs).find? (occursIn · f.name)

/-- The judgement by the English lexicon, the shape of types and the names of types. -/
def ofNames (allowed : List String) : Judgement :=
  ⟨Word.Lexicon.english.isPlural, entityByShape wrapperSuffixes, repeatsByName allowed⟩

end Judgement
end SchemaLint
