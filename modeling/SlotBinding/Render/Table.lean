import SlotBinding.Render.Binder

/-!
# The table of all binders

The table includes the source of every binder and lists the binders. A host that is compiled out takes
its source and its entry with it.
-/

namespace SlotBinding

/-- The directory of the generated sources, below that of the table. -/
def artifactDir : String := "viewbind"

def tableFile : String := "viewbind.rs"

namespace HostModel

def artifactPath (m : HostModel) : Except NameFault String :=
  m.artifactFile.map fun f => artifactDir ++ "/" ++ f

end HostModel

namespace Renderer

/-- What the table says of a host: the source of its binder and the binder's entry. -/
def tablePart (m : HostModel) : Except NameFault (List String × String) := do
  let path ← m.artifactPath
  let ident ← m.binderIdent
  return (conditions m
      ++ ["include ! (concat ! (env ! (\"OUT_DIR\") ,",
          Text.Quoted.literal ("/" ++ path) ++ ")) ;"],
    phrases (conditions m ++ ["&", ident]))

def entryList (r : Renderer) (entries : List String) : List String :=
  ["# [doc = r\" Every binder generated for this crate.\"] pub static VIEWBIND_BINDERS : & [& dyn",
   r.runtime, ":: Binder] = & [" ++ " , ".intercalate entries ++ "] ;"]

def installer (r : Renderer) : List String :=
  ["# [doc = r\" Install this crate's binders into the process-wide registry.\"] # [doc = r\"\"]",
   "# [doc = r\" Runs automatically at startup on native targets; wasm32 hosts\"]",
   "# [doc = r\" call it themselves before the first `locate`.\"] pub fn register_binders () \x7b",
   r.runtime, ":: registry :: install (VIEWBIND_BINDERS) ; \x7d"]

def startup (r : Renderer) : List String :=
  ["# [cfg (not (target_arch = \"wasm32\"))] # [" ++ r.runtime,
   ":: __reexports :: ctor :: ctor (unsafe , anonymous , crate_path =", r.runtime,
   ":: __reexports :: ctor)] fn __ctor () \x7b register_binders () ; \x7d"]

def table (r : Renderer) (ms : List HostModel) : Except NameFault String := do
  let parts ← ms.mapM tablePart
  return phrases
    (parts.flatMap (·.1) ++ r.entryList (parts.map (·.2)) ++ r.installer ++ r.startup)

end Renderer

end SlotBinding
