import Rsduck.Lib.Text
import Rsduck.Sql.Syntax

/-!
The base relations a statement reads: every table its tree names, in a `FROM` list, a join, a
subquery, a set operation, a `TABLE` expression or a bound query, except the names that a `WITH`
around them binds.
-/

namespace Rsduck.Sql

open Lib.Text

/-- `EXPLAIN` runs its statement: `ANALYZE` stands before it, or among the options in brackets. -/
def explainRuns (analyze : Bool) (options : List Ident) : Bool :=
  analyze || options.any fun i => eqIgnoreAsciiCase i.value "analyze".toList

/-- The table, unless its name is bound. -/
def readTable (bound : List (List Char)) (name : ObjectName) : List ObjectName :=
  match name with
  | [i] => if bound.any (eqIgnoreAsciiCase i.value) then [] else [name]
  | _ => [name]

def Cte.name : Cte → List Char
  | .mk name _ _ _ => name.value

mutual

def Statement.readsUnder (bound : List (List Char)) : Statement → List ObjectName
  | .query q => q.readsUnder bound
  | .explain _ _ _ s => s.readsUnder bound
  | .insert _ ps | .update _ ps | .delete _ ps | .merge _ ps | .createTable _ ps
  | .createView _ ps | .createIndex _ ps | .comment _ _ _ ps | .drop _ _ ps | .copy _ ps
  | .other _ ps => partsRead bound ps
  | .pragma _ _ | .startTransaction _ _ => []

def Query.readsUnder (bound : List (List Char)) : Query → List ObjectName
  | .mk recursive ctes body tail =>
    let inner := ctes.reverse.map Cte.name ++ bound
    ctesRead recursive bound ctes ++ body.readsUnder inner ++ partsRead inner tail

def Cte.readsUnder (recursive : Bool) (bound : List (List Char)) : Cte → List ObjectName
  | .mk name _ q _ => q.readsUnder (if recursive then name.value :: bound else bound)

def SetExpr.readsUnder (bound : List (List Char)) : SetExpr → List ObjectName
  | .select ps | .values ps => partsRead bound ps
  | .table name => readTable bound name
  | .query q => q.readsUnder bound
  | .setOperation l _ r => l.readsUnder bound ++ r.readsUnder bound
  | .insert s | .update s | .delete s | .merge s => s.readsUnder bound

def Part.readsUnder (bound : List (List Char)) : Part → List ObjectName
  | .text _ | .target _ => []
  | .table name => readTable bound name
  | .query q => q.readsUnder bound

def partsRead (bound : List (List Char)) : List Part → List ObjectName
  | [] => []
  | p :: ps => p.readsUnder bound ++ partsRead bound ps

/-- A bound query sees the names bound before it, and its own in a recursive `WITH`. -/
def ctesRead (recursive : Bool) (bound : List (List Char)) : List Cte → List ObjectName
  | [] => []
  | c :: cs => c.readsUnder recursive bound ++ ctesRead recursive (c.name :: bound) cs

end

def Statement.reads (s : Statement) : List ObjectName := s.readsUnder []

end Rsduck.Sql
