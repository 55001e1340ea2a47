import Polyglot.Call.Builder
import Polyglot.Procedure

/-!
# Polyglot.Call.Site

Call sites.  A call site calls one of several candidates, the first in order whose builders take
arguments of the call's shape.  It remembers its last choice together with the exact shape it was
made for, and uses it again for calls of that shape; a call of any other shape is bound anew.  A
call that cannot be bound leaves the remembered choice alone.
-/

namespace Polyglot

/-- A procedure with the builders that make its arguments. -/
structure Candidate where
  builders : BuilderSet
  procedure : Procedure

namespace Candidate

/-- Make the arguments of the procedure and call it. -/
def invoke (m : Candidate) (st : Store) (c : Context) (args : List Value) :
    Except RuntimeError Value :=
  match m.builders.build c args with
  | .error e => .error e
  | .ok physical => m.procedure.call st physical

/-- Whether a call of this shape can be bound to the candidate. -/
def accepts (m : Candidate) (c : Context) (s : Shape) : Bool := (m.builders.guard c s).holds s

end Candidate

/-- A place in a program that calls by name. -/
structure CallSite where
  name : Symbol
  candidates : List Candidate
  /-- The last choice, and the guard of the shape it was made for. -/
  choice : Option (Fin candidates.length × Guard) := none
  /-- How many calls had to be bound anew. -/
  binds : Nat := 0

namespace CallSite

/-- The first candidate that takes arguments of the shape. -/
def search (site : CallSite) (c : Context) (s : Shape) : Option (Fin site.candidates.length) :=
  site.candidates.findFinIdx? fun m => m.accepts c s

/-- The remembered choice, if it was made for this shape. -/
def remembered (site : CallSite) (s : Shape) : Option (Fin site.candidates.length) :=
  match site.choice with
  | some (i, g) => if g.holds s then some i else none
  | none => none

/-- Choose the candidate for calls of a shape, and remember it if it had to be searched for. -/
def choose (site : CallSite) (c : Context) (s : Shape) :
    Option (Fin site.candidates.length) × CallSite :=
  match site.remembered s with
  | some i => (some i, site)
  | none =>
    let searched := { site with binds := site.binds + 1 }
    match site.search c s with
    | some i => (some i, { searched with choice := some (i, .exact s) })
    | none => (none, searched)

/-- The candidate for calls of a shape. -/
def bind (site : CallSite) (c : Context) (s : Shape) : Except BindingError Candidate × CallSite :=
  match site.choose c s with
  | (some i, after) => (.ok (site.candidates.get i), after)
  | (none, after) => (.error (.noApplicableMethod site.name.text s.display), after)

/-- Bind a call and make it. -/
def invoke (site : CallSite) (st : Store) (c : Context) (args : List Value) :
    Except RuntimeError Value × CallSite :=
  match site.bind c (.ofArgs args) with
  | (.error e, site) => (.error (.binding e), site)
  | (.ok m, site) => (m.invoke st c args, site)

/-- The call site as a developer sees it. -/
def inspect (site : CallSite) : String :=
  Text.inspectRecord "CallSiteBinder"
    [("name", site.name.inspect), ("candidates", toString site.candidates.length),
      ("binds", toString site.binds)]

end CallSite

end Polyglot
