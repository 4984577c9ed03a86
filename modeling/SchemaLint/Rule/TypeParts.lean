import SchemaLint.Rule.Basic
import SchemaLint.Word.Casing

/-!
# Rules about the parts of types

Types that model entities have an id, and enum values are in SCREAMING_SNAKE_CASE.
-/

namespace SchemaLint.Rule

/-- Types that model entities have a field `id: ID!`. -/
def idFieldPresence : Rule :=
  .onTypes "IdFieldPresence" "Object types modelling entities have an 'id: ID!' field." .warning
    true (· == .object) fun context t =>
      if context.judgement.isEntity context.table t = some true then
        match t.field? "id" with
        | none =>
          .one (.type t) s!"Type '{t.name}' looks like an entity and should have an 'id: ID!' field"
            (some "id: ID!")
        | some f =>
          if f.type.isRequired "ID" then .nothing
          else
            .one (.type t)
              s!"Type '{t.name}' should declare 'id' as 'ID!', not '{f.type.text}'"
              (some "id: ID!")
      else .nothing

/-- Enum values are in SCREAMING_SNAKE_CASE. -/
def enumValueCasing : Rule :=
  .onTypes "EnumValueCasing" "Enum values are SCREAMING_SNAKE_CASE." .error false (· == .enum)
    fun _ t =>
      some ((t.values.filter (!Word.isScreaming ·.name)).map fun v =>
        ⟨s!"Enum value '{v.name}' of '{t.name}' should be SCREAMING_SNAKE_CASE",
          some (Word.toScreaming v.name), .ofEnumValue v⟩)

end SchemaLint.Rule
