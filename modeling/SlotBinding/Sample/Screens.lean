import SlotBinding.Injection.Registry

/-!
# Sample hosts

Two screens, a badge and a plain host without bound fields, with the binders generated for them.
-/

namespace SlotBinding.Sample

def crateName : String := "viewbind_testing_demo"

def hostType (path : String) : HostType :=
  let name := crateName ++ "::" ++ path
  { name, path := name }

def homeType : HostType := hostType "screens::home::HomeScreen"

def categoryType : HostType := hostType "screens::category::CategoryScreen"

def badgeType : HostType := hostType "badges::Badge"

def plainType : HostType := hostType "Plain"

/-- A screen that carries its own values. -/
structure HomeScreen where
  host : HostObject
  root : SlotMap
  deriving Inhabited

/-- The home screen with the given values and nothing assigned. -/
def HomeScreen.new (root : SlotMap) : HomeScreen :=
  { host :=
      { type := homeType
        fields := [("title", .textView ""), ("action", .button "" false), ("visits", .nat32 0)] }
    root }

def HomeScreen.injectOwn (r : Registry) (h : HomeScreen) :
    HomeScreen × Except BindingError Unit :=
  let (host, result) := r.inject h.host h.root.source
  ({ h with host }, result)

def newCategory : HostObject :=
  { type := categoryType, fields := [("items", .listView []), ("header", .label "")] }

def newBadge : HostObject := { type := badgeType, fields := [("0", .label "")] }

def newPlain : HostObject := { type := plainType, fields := [("note", .ownedText "")] }

def binderOf (host : HostType) (assignments : List Assignment) : Binder :=
  { name := host.binderName, version := contractVersion, host, assignments }

def table : List Binder :=
  [binderOf badgeType [⟨40, "0", .label⟩],
   binderOf categoryType [⟨30, "items", .listView⟩, ⟨-1, "header", .label⟩],
   binderOf homeType [⟨10, "title", .textView⟩, ⟨20, "action", .button⟩]]

end SlotBinding.Sample
