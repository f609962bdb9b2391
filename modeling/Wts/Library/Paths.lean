/-
Module: Wts.Library.Paths
Purpose: The parts of a path: what is above its last component, the last component, and the path that a
  text denotes.
-/
import Wts.Library.StdTypes
import Wts.Library.Text

namespace Wts.PathBuf

def parent (path : PathBuf) : Option PathBuf :=
  if path.components = [] then none
  else some { path with components := path.components.dropLast }

/-- `Path::file_name` of a path whose last component is a name. -/
def fileName (path : PathBuf) : Option String :=
  path.components.getLast?

/-- `Path::new`: the names between the slashes of a text; empty ones and single dots are skipped. -/
def ofText (text : String) : PathBuf where
  absolute := text.toList.head? = some '/'
  components := (Text.split '/' text).filter fun name => name ≠ "" && name ≠ "."

variable {path folder : PathBuf} {name : String}

@[simp] theorem parent_join : (path.join name).parent = some path := by
  simp [parent, join]

@[simp] theorem fileName_join : (path.join name).fileName = some name := by
  simp [fileName, join]

end Wts.PathBuf
