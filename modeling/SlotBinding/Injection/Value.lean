import SlotBinding.Collection.SortedMap

/-!
# Values and where they come from

A value source gives a value for a slot. Every value has one type, and a field takes values of its own
type only.
-/

namespace SlotBinding

inductive ValueType
  | ownedText
  | sharedText
  | int32
  | nat32
  | int64
  | truth
  | character
  | unit
  | bytes
  | optionalInt32
  | textView
  | label
  | button
  | listView
  /-- Any other type, known by its path. -/
  | named (path : String)
  deriving Repr, DecidableEq, Inhabited

namespace ValueType

def name : ValueType → String
  | ownedText => "alloc::string::String"
  | sharedText => "&str"
  | int32 => "i32"
  | nat32 => "u32"
  | int64 => "i64"
  | truth => "bool"
  | character => "char"
  | unit => "()"
  | bytes => "alloc::vec::Vec<u8>"
  | optionalInt32 => "core::option::Option<i32>"
  | textView => "viewbind_testing_demo::widget::TextView"
  | label => "viewbind_testing_demo::widget::Label"
  | button => "viewbind_testing_demo::widget::Button"
  | listView => "viewbind_testing_demo::widget::ListView"
  | named path => path

end ValueType

inductive Value
  | ownedText (text : String)
  | sharedText (text : String)
  | int32 (n : Int32)
  | nat32 (n : UInt32)
  | int64 (n : Int64)
  | truth (b : Bool)
  | character (c : Char)
  | unit
  | bytes (bs : List UInt8)
  | optionalInt32 (n : Option Int32)
  | textView (text : String)
  | label (text : String)
  | button (label : String) (enabled : Bool)
  | listView (items : List String)
  /-- A value of any other type, told apart from the others of its type by its content. -/
  | named (path content : String)
  deriving Repr, DecidableEq, Inhabited

namespace Value

def type : Value → ValueType
  | ownedText _ => .ownedText
  | sharedText _ => .sharedText
  | int32 _ => .int32
  | nat32 _ => .nat32
  | int64 _ => .int64
  | truth _ => .truth
  | character _ => .character
  | unit => .unit
  | bytes _ => .bytes
  | optionalInt32 _ => .optionalInt32
  | textView _ => .textView
  | label _ => .label
  | button _ _ => .button
  | listView _ => .listView
  | named path _ => .named path

end Value

/-- Anything that can give a value for a slot. -/
abbrev ValueSource := Int32 → Option Value

abbrev SlotMap := SortedMap Int32 Value

namespace SlotMap

def source (m : SlotMap) : ValueSource := m.get?

def text (m : SlotMap) : String :=
  "\x7b" ++ ", ".intercalate (m.keys.map fun slot => toString slot.toInt) ++ "\x7d"

end SlotMap

end SlotBinding
