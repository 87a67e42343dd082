import SlotBinding.Syntax.Error

/-!
# What can be wrong with the argument of a slot mark
-/

namespace SlotBinding.Slot

/-- A fault in the named form of an argument. -/
inductive FormFault
  /-- The list between the delimiters is not in the grammar. -/
  | grammar (error : Syntax.SyntaxError)
  /-- An item of a form that has no meaning here. -/
  | format (what : String)
  /-- A field that does not exist; the flag says whether it looks like the one that does. -/
  | unknownField (name : String) (similar : Bool)
  | duplicateField
  | missingField
  /-- A value that is neither a number nor a text. -/
  | valueType (kind : String)
  /-- A text that is not a number. -/
  | valueText (text : String)
  | tooLarge
  | tooSmall
  /-- A fault in the value of the field. -/
  | inField (fault : FormFault)
  deriving Repr, DecidableEq

def fieldName : String := "id"

namespace FormFault

def message : FormFault → String
  | grammar e => e.message
  | format what => "Unexpected meta-item format `" ++ what ++ "`"
  | unknownField name similar =>
    "Unknown field: `" ++ name ++ "`. "
      ++ if similar then "Did you mean `" ++ fieldName ++ "`?"
        else "Available values: `" ++ fieldName ++ "`"
  | duplicateField => "Duplicate field `" ++ fieldName ++ "`"
  | missingField => "Missing field `" ++ fieldName ++ "`"
  | valueType kind => "Unexpected type `" ++ kind ++ "`"
  | valueText text => "Unknown value: `" ++ text ++ "`"
  | tooLarge => "number too large to fit in target type"
  | tooSmall => "number too small to fit in target type"
  | inField fault => fault.message ++ " at " ++ fieldName

def messageAll : List FormFault → String
  | [f] => f.message
  | fs => "Multiple errors: (" ++ ", ".intercalate (fs.map message) ++ ")"

end FormFault

end SlotBinding.Slot
