import ImageSync.Text.Blank
import ImageSync.Text.Cut

/-!
# `ImageSync.Registry.NextLink`: the link to the next page

A page names the page after it in a `Link` header: entries between commas, each of them a
target in angle brackets and parameters after semicolons. `nextLink?` gives the target of the
first entry that has the relation `next` and a target in brackets.

Commas and semicolons count wherever they stand, inside the brackets too: a target that holds
one is cut there.
-/

set_option autoImplicit false

namespace ImageSync

open Text

/-- Whether a parameter says that an entry leads to the next page. -/
def isNextRelation (parameter : List Char) : Bool :=
  let p := trim parameter
  p == "rel=\"next\"".toList || p == "rel=next".toList

/-- The target of an entry that leads to the next page. -/
def nextTarget? (entry : List Char) : Option (List Char) :=
  match splitAtChar ';' entry with
  | target :: parameters =>
    if parameters.any isNextRelation then do
      stripSuffix? ['>'] (← stripPrefix? ['<'] (trim target))
    else none
  | [] => none

/-- The target of the first entry that leads to the next page. -/
def nextLink? (header : List Char) : Option (List Char) :=
  (splitAtChar ',' header).findSome? nextTarget?

end ImageSync
