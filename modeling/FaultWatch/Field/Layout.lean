import FaultWatch.Field

/-! Named layouts of one word. Fields may overlap and names may repeat: a name means the first field
that has it. Edits on a word go through the layout by name or take a field directly; an edit whose
name is unknown is reported and changes nothing. -/
namespace FaultWatch

structure Layout where
  name : String
  fields : List Field
  deriving DecidableEq, Repr

structure Layout.NoField where
  layout : String
  name : String
  deriving DecidableEq, Repr

def Layout.NoField.message (e : Layout.NoField) : String :=
  "unknown field `" ++ e.name ++ "` in layout `" ++ e.layout ++ "`"

namespace Layout

def lookup (layout : Layout) (name : String) : Except Layout.NoField Field :=
  match layout.fields.find? (·.name == name) with
  | some f => .ok f
  | none => .error ⟨layout.name, name⟩

def overlapsWithin : List Field → List (Field × Field)
  | [] => []
  | f :: rest => (rest.filter f.overlaps).map (f, ·) ++ overlapsWithin rest

def overlapping (layout : Layout) : List (Field × Field) := overlapsWithin layout.fields

def getNamed (layout : Layout) (name : String) (word : UInt64) : Except Layout.NoField UInt64 := do
  return (← layout.lookup name).extract word

def setNamed (layout : Layout) (name : String) (value word : UInt64) :
    Except Layout.NoField UInt64 := do
  return (← layout.lookup name).insert word value

end Layout

inductive Edit
  | named (name : String) (value : UInt64)
  | direct (field : Field) (value : UInt64)
  deriving DecidableEq, Repr

def Edit.apply (layout : Layout) (word : UInt64) : Edit → Except Layout.NoField UInt64
  | .named name value => layout.setNamed name value word
  | .direct field value => .ok (field.insert word value)

def Layout.edit (layout : Layout) (word : UInt64) (e : Edit) : UInt64 :=
  match e.apply layout word with
  | .ok next => next
  | .error _ => word

def Layout.editAll (layout : Layout) (word : UInt64) (edits : List Edit) : UInt64 :=
  edits.foldl layout.edit word

end FaultWatch
