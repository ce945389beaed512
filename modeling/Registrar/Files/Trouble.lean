import Registrar.Text.Surrogate

/-!
# What goes wrong with files

The reasons for which a step on a file tree is refused.
-/

namespace Registrar.Files

/-- Why a step on a file tree was refused. -/
inductive Trouble where
  /-- Something on the way is missing. -/
  | missing
  /-- A directory is wanted where something else stands. -/
  | inTheWay (path : String)
  /-- Something on the way is not a directory. -/
  | notDirectory
  /-- A file is wanted where a directory stands. -/
  | isDirectory
  /-- The place is a directory's own entry for itself or its parent. -/
  | busy
  /-- Links lead to links without an end. -/
  | linkLoop
  /-- A path holds a character that no name can hold. -/
  | badName
  /-- A name or a whole path is longer than it may be. -/
  | nameTooLong
  /-- A text that is to be written cannot be encoded. -/
  | unencodable (cause : Unencodable)
  deriving DecidableEq, Repr

end Registrar.Files
