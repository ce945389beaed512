/-!
# Routes

A route is a path as it is spelled: an optional root and the names between the slashes. Doubled
slashes and dots that stay in place are gone, but steps to the parent are kept, since where they
lead depends on the links on the way.
-/

namespace Registrar.Files

/-- A spelled path. The root is empty for a route that starts where one stands. -/
structure Route where
  root : String
  parts : List String
  deriving DecidableEq, Repr

/-- The pieces between the slashes of a text. -/
def segments : List Char → List (List Char)
  | [] => [[]]
  | c :: rest =>
      if c = '/' then [] :: segments rest
      else
        match segments rest with
        | first :: others => (c :: first) :: others
        | [] => [[c]]

/-- The names between the slashes of a text. -/
def namesIn (text : String) : List String :=
  ((segments text.toList).map String.ofList).filter fun name => name ≠ "" ∧ name ≠ "."

/-- A name without a slash is the only one in its text. -/
theorem segments_of_not_mem {cs : List Char} (h : '/' ∉ cs) : segments cs = [cs] := by
  induction cs with
  | nil => rfl
  | cons c rest ih =>
      simp only [List.mem_cons, not_or] at h
      simp [segments, Ne.symm h.1, ih h.2]

namespace Route

/-- The root at the front of a text. Two slashes, and no more, are a root of their own. -/
def rootOf : List Char → String
  | '/' :: '/' :: '/' :: _ => "/"
  | '/' :: '/' :: _ => "//"
  | '/' :: _ => "/"
  | _ => ""

/-- The route that a text spells. -/
def ofText (text : String) : Route :=
  ⟨rootOf text.toList, namesIn text⟩

/-- The text of a route. -/
def text (route : Route) : String :=
  if route.root = "" ∧ route.parts = [] then "."
  else route.root ++ "/".intercalate route.parts

/-- A route that goes on from another one, unless it has a root of its own. -/
def append (base next : Route) : Route :=
  if next.root = "" then ⟨base.root, base.parts ++ next.parts⟩ else next

/-- The route without its last step. -/
def parent (route : Route) : Route :=
  { route with parts := route.parts.dropLast }

/-- Follow steps from a place, each step to the parent undoing the one before it. -/
def flattenFrom (place : List String) : List String → List String
  | [] => place
  | name :: rest => if name = ".." then flattenFrom place.dropLast rest
      else flattenFrom (place ++ [name]) rest

/-- A route without steps to the parent, as it would be if there were no links. -/
def flatten (route : Route) : Route :=
  { route with parts := flattenFrom [] route.parts }

/-- Whether a route has a name that no entry can have. -/
def hasBadName (route : Route) : Bool :=
  route.parts.any fun name => name.toList.contains '\x00'

end Route

end Registrar.Files
