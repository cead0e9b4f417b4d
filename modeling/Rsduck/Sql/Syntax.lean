import Mathlib.Tactic.Common

/-!
Syntax trees of SQL statements.

A tree keeps the statement's constructor, its queries with the names they bind, the tables it
names, and between them the text it is printed with.
-/

namespace Rsduck.Sql

structure Ident where
  value : List Char
  quoteStyle : Option Char := none
  deriving DecidableEq

abbrev ObjectName := List Ident

/-- What `COMMENT ON` is about. -/
inductive CommentObject
  | schema | table | view | index | column
  | other (name : List Char)
  deriving DecidableEq

def CommentObject.text : CommentObject → List Char
  | .schema => "SCHEMA".toList
  | .table => "TABLE".toList
  | .view => "VIEW".toList
  | .index => "INDEX".toList
  | .column => "COLUMN".toList
  | .other name => name

/-- What `DROP` is about. -/
inductive ObjectType
  | table | collation | view | materializedView | index | schema | database | role | sequence
  | stage | type | user | stream
  deriving DecidableEq

/-- The constructors of a statement that have no case of their own below. -/
inductive StatementKind
  | analyze | set | truncate | install | load | directory | call | createUser
  | createVirtualTable | createRole | createSecret | createServer | createPolicy
  | createConnector | createOperator | createOperatorFamily | createOperatorClass | alterTable
  | alterSchema | alterIndex | alterView | alterUser | alterFunction | alterType
  | alterCollation | alterOperator | alterOperatorFamily | alterOperatorClass | alterRole
  | alterPolicy | alterConnector | alterSession | attachDatabase | attachDuckDBDatabase
  | detachDuckDBDatabase | dropFunction | dropDomain | dropProcedure | dropSecret
  | dropPolicy | dropConnector | dropExtension | dropOperator | dropOperatorFamily
  | dropOperatorClass | createExtension | createCollation | createSchema | createDatabase
  | createFunction | createTrigger | createProcedure | createMacro | createStage
  | createSequence | createDomain | createType | explainTable | cache | unCache | use | commit
  | rollback | grant | deny | revoke | exportData | fetch | showFunctions
  | showVariable | showStatus | showVariables | showCreate | showColumns | showCatalogs
  | showDatabases | showProcessList | showSchemas | showCharset | showObjects | showTables
  | showViews | showCollation | execute | unlisted
  deriving DecidableEq

mutual

inductive Statement
  | query (query : Query)
  | insert (target : ObjectName) (parts : List Part)
  | update (target : ObjectName) (parts : List Part)
  | delete (target : ObjectName) (parts : List Part)
  | merge (target : ObjectName) (parts : List Part)
  | createTable (name : ObjectName) (parts : List Part)
  | createView (name : ObjectName) (parts : List Part)
  | createIndex (tableName : ObjectName) (parts : List Part)
  | comment (objectType : CommentObject) (objectName : ObjectName) (comment : Option (List Char))
    (parts : List Part)
  | drop (objectType : ObjectType) (cascade : Bool) (parts : List Part)
  | explain (analyze : Bool) (options : List Ident) (opening : List Char) (statement : Statement)
  | copy (isTo : Bool) (parts : List Part)
  | pragma (value : Bool) (text : List Char)
  | startTransaction (begin : Bool) (text : List Char)
  | other (kind : StatementKind) (parts : List Part)

/-- A query: what its `WITH` binds, its body, and what follows (`ORDER BY`, `LIMIT`, …). -/
inductive Query
  | mk (recursive : Bool) (ctes : List Cte) (body : SetExpr) (tail : List Part)

/-- A bound query, with the text before it (` AS (`) and after it. -/
inductive Cte
  | mk (name : Ident) (opening : List Char) (query : Query) (closing : List Char)

inductive SetExpr
  | select (parts : List Part)
  | values (parts : List Part)
  | table (name : ObjectName)
  | query (query : Query)
  | setOperation (left : SetExpr) (operator : List Char) (right : SetExpr)
  | insert (statement : Statement)
  | update (statement : Statement)
  | delete (statement : Statement)
  | merge (statement : Statement)

/-- A piece of an expression or a clause: printed text, the name of a table that is read or is the
statement's target there, or a query. -/
inductive Part
  | text (text : List Char)
  | table (name : ObjectName)
  | target (name : ObjectName)
  | query (query : Query)

end

/-! ### Nodes that modify data -/

mutual

/-- The tree holds an `INSERT`, `UPDATE`, `DELETE` or `MERGE`. -/
def Statement.modifies : Statement → Bool
  | .query q => q.modifies
  | .insert _ _ | .update _ _ | .delete _ _ | .merge _ _ => true
  | .explain _ _ _ s => s.modifies
  | .createTable _ ps | .createView _ ps | .createIndex _ ps | .comment _ _ _ ps | .drop _ _ ps
  | .copy _ ps | .other _ ps => partsModify ps
  | .pragma _ _ | .startTransaction _ _ => false

def Query.modifies : Query → Bool
  | .mk _ ctes body tail => ctesModify ctes || body.modifies || partsModify tail

def Cte.modifies : Cte → Bool
  | .mk _ _ q _ => q.modifies

def SetExpr.modifies : SetExpr → Bool
  | .select ps | .values ps => partsModify ps
  | .table _ => false
  | .query q => q.modifies
  | .setOperation l _ r => l.modifies || r.modifies
  | .insert s | .update s | .delete s | .merge s => s.modifies

def Part.modifies : Part → Bool
  | .text _ | .table _ | .target _ => false
  | .query q => q.modifies

def partsModify : List Part → Bool
  | [] => false
  | p :: ps => p.modifies || partsModify ps

def ctesModify : List Cte → Bool
  | [] => false
  | c :: cs => c.modifies || ctesModify cs

end

/-! ### Printing -/

/-- The text with its quotes doubled, unless they are doubled or after a backslash already. -/
def escapeQuoted (quote : Char) : Option Char → List Char → List Char
  | _, [] => []
  | prev, [c] => if c = quote ∧ prev ≠ some '\\' then [c, c] else [c]
  | prev, c :: d :: r =>
    if c ≠ quote then c :: escapeQuoted quote c (d :: r)
    else if prev = some '\\' then c :: escapeQuoted quote prev (d :: r)
    else if d = quote then c :: d :: escapeQuoted quote c r
    else c :: c :: escapeQuoted quote c (d :: r)

def Ident.print (i : Ident) : List Char :=
  match i.quoteStyle with
  | none => i.value
  | some '[' => '[' :: i.value ++ [']']
  | some quote => quote :: escapeQuoted quote none i.value ++ [quote]

def printName (name : ObjectName) : List Char := List.intercalate ['.'] (name.map Ident.print)

mutual

def Statement.print : Statement → List Char
  | .query q => q.print
  | .insert _ ps | .update _ ps | .delete _ ps | .merge _ ps | .createTable _ ps
  | .createView _ ps | .createIndex _ ps | .comment _ _ _ ps | .drop _ _ ps | .copy _ ps
  | .other _ ps => printParts ps
  | .explain _ _ opening s => opening ++ s.print
  | .pragma _ text | .startTransaction _ text => text

def Query.print : Query → List Char
  | .mk recursive ctes body tail =>
    printCtes (if recursive then "WITH RECURSIVE ".toList else "WITH ".toList) ctes ++
      body.print ++ printParts tail

def Cte.print : Cte → List Char
  | .mk name opening q closing => name.print ++ opening ++ q.print ++ closing

def SetExpr.print : SetExpr → List Char
  | .select ps | .values ps => printParts ps
  | .table name => "TABLE ".toList ++ printName name
  | .query q => '(' :: q.print ++ [')']
  | .setOperation l operator r => l.print ++ operator ++ r.print
  | .insert s | .update s | .delete s | .merge s => s.print

def Part.print : Part → List Char
  | .text t => t
  | .table name | .target name => printName name
  | .query q => q.print

def printParts : List Part → List Char
  | [] => []
  | p :: ps => p.print ++ printParts ps

/-- The bound queries after `opening`, and the blank before what follows them. -/
def printCtes (opening : List Char) : List Cte → List Char
  | [] => []
  | [c] => opening ++ c.print ++ [' ']
  | c :: cs => opening ++ c.print ++ printCtes ", ".toList cs

end

end Rsduck.Sql
