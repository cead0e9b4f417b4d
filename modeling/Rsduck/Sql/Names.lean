import Rsduck.Sql.Syntax

/-!
Names in a statement: their parts, and the schema and relation they stand for.
-/

namespace Rsduck.Sql

def identParts (name : ObjectName) : List (List Char) := name.map (·.value)

/-- A schema and a relation. -/
abbrev RelationName := List Char × List Char

def relationName (name : ObjectName) : Except String RelationName :=
  match identParts name with
  | [relation] => .ok ("main".toList, relation)
  | [schema, relation] => .ok (schema, relation)
  | _ => .error ("unsupported relation name: " ++ String.ofList (printName name))

def columnCommentTarget (name : ObjectName) : Except String (RelationName × List Char) :=
  match identParts name with
  | [relation, column] => .ok (("main".toList, relation), column)
  | [schema, relation, column] => .ok ((schema, relation), column)
  | _ => .error ("unsupported column name for COMMENT: " ++ String.ofList (printName name))

def commentRelationName (objectType : CommentObject) (objectName : ObjectName) :
    Except String RelationName :=
  if objectType = .column then (columnCommentTarget objectName).map (·.1)
  else relationName objectName

def singleNamePart (name : ObjectName) : Except String (List Char) :=
  match identParts name with
  | [part] => .ok part
  | _ => .error ("unsupported schema name: " ++ String.ofList (printName name))

end Rsduck.Sql
