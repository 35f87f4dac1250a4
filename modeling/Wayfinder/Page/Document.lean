/-!
# Documents

A page shows a title and a body.  The body's markup is read and replaced as a whole; appending and
clearing are replacements.
-/

namespace Wayfinder

/-- A title and the markup of the body. -/
structure Document where
  title : String := ""
  body : String := ""
deriving DecidableEq, Inhabited

/-- A change of markup. -/
inductive MarkupEdit where
  | replace (html : String)
  | append (html : String)
  | clear
deriving DecidableEq

/-- The markup after an edit. -/
def MarkupEdit.apply : MarkupEdit → String → String
  | replace html, _ => html
  | append html, old => old ++ html
  | clear, _ => ""

namespace Document

def setTitle (title : String) (d : Document) : Document := { d with title }

def edit (e : MarkupEdit) (d : Document) : Document := { d with body := e.apply d.body }

end Document

end Wayfinder
