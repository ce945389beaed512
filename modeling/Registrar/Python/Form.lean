/-!
# What an expression may be used as

The grammar reads the target of an assignment as an expression. What is kept of an expression is
its form: as much of its shape as decides whether something can be assigned to it, whether it can
be deleted, and whether it may have an annotation.
-/

namespace Registrar.Python

/-- The form of an expression. -/
inductive Form where
  | name
  /-- An attribute or an item of a value. -/
  | part
  /-- An expression in parentheses. -/
  | group (inner : Form)
  | tuple (items : List Form)
  | list (items : List Form)
  /-- An expression with a star in front. -/
  | starred (inner : Form)
  /-- Anything else. -/
  | other
  deriving Repr, Inhabited

namespace Form

/-- The items of a form that has some. -/
def items : Form → List Form
  | .tuple items | .list items => items
  | _ => []

mutual
/-- Whether values can be unpacked into a form without a star. -/
def isTarget : Form → Bool
  | .name | .part => true
  | .group inner => isTarget inner
  | .tuple items | .list items => areTargets items
  | .starred _ | .other => false

/-- Whether values can be unpacked into a form. -/
def isItemTarget : Form → Bool
  | .starred inner => isTarget inner
  | .name | .part => true
  | .group inner => isTarget inner
  | .tuple items | .list items => areTargets items
  | .other => false

/-- Whether values can be unpacked into each of some forms. -/
def areTargets : List Form → Bool
  | [] => true
  | item :: rest => isItemTarget item && areTargets rest
end

/-- Whether a form is one place for one value. -/
def isSingle : Form → Bool
  | .name | .part => true
  | .group inner => isSingle inner
  | _ => false

mutual
/-- Whether a form can be deleted. -/
def isDeletable : Form → Bool
  | .name | .part => true
  | .group inner => isDeletable inner
  | .tuple items | .list items => areDeletable items
  | .starred _ | .other => false

/-- Whether each of some forms can be deleted. -/
def areDeletable : List Form → Bool
  | [] => true
  | item :: rest => isDeletable item && areDeletable rest
end

/-- Whether a form has a star in front. -/
def isStarred : Form → Bool
  | .starred _ => true
  | _ => false

end Form

end Registrar.Python
