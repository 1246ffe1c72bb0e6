import LuaStubs.Text.Blank

/-!
# Value categories

Generated code tells apart strings, numbers, booleans and everything else.
`Category.ofWireType` sorts the type names of both kinds of input document into
these four.
-/

namespace LuaStubs

/-- What generated code knows about the type of a value. -/
inductive Category where
  | string
  | number
  | boolean
  /-- Objects, arrays, maps and nested messages. -/
  | composite
  deriving DecidableEq, Repr, Inhabited

namespace Category

/-- The name of the category. -/
def name : Category → String
  | string => "string"
  | number => "number"
  | boolean => "boolean"
  | composite => "composite"

instance : ToString Category := ⟨name⟩

/-- What Lua's `type` says of a value of the category. -/
def luaType : Category → String
  | string => "string"
  | number => "number"
  | boolean => "boolean"
  | composite => "table"

/-- All categories but the composite one are primitive. -/
def isPrimitive : Category → Bool
  | composite => false
  | _ => true

/-- The type names that stand for a primitive value. -/
def wireTypes : List (String × Category) :=
  [("int32", number), ("int64", number), ("uint32", number), ("uint64", number),
   ("sint32", number), ("sint64", number), ("fixed32", number), ("fixed64", number),
   ("sfixed32", number), ("sfixed64", number), ("double", number), ("float", number),
   ("string", string), ("bytes", string), ("bool", boolean),
   ("google.protobuf.Int32Value", number), ("google.protobuf.Int64Value", number),
   ("google.protobuf.UInt32Value", number), ("google.protobuf.UInt64Value", number),
   ("google.protobuf.DoubleValue", number), ("google.protobuf.FloatValue", number),
   ("google.protobuf.StringValue", string), ("google.protobuf.BytesValue", string),
   ("google.protobuf.BoolValue", boolean),
   ("integer", number), ("number", number), ("boolean", boolean)]

/-- The category of a type name, which may have blanks around it and leading dots. A name that is
not in the table stands for a composite value. -/
def ofWireType (name : String) : Category :=
  let key := String.ofList ((Text.trim name.toList).dropWhile (· == '.'))
  (wireTypes.lookup key).getD composite

end Category

end LuaStubs
