import Rsduck.Lib.Text

/-!
How the service looks at the text of a statement before it is parsed.
-/

namespace Rsduck.Sql

open Lib Lib.Text

/-- Lower case, without name quotes, with single blanks. -/
def normalizeForGuard (sql : List Char) : List Char :=
  joinWords (words ((toAsciiLowercase (trimEndMatches ';' (trim sql))).filter
    fun c => c != '"' && c != '`'))

def isIdentByte (c : Char) : Bool := c.isAlphanum || c == '_'

inductive QuoteState
  | none | single | double
  deriving DecidableEq

/-- Where the phrase stands between word boundaries and outside quotes; `prev` is the character
before the text. -/
def findKeywordPhraseFrom (phrase : List Char) : QuoteState → Option Char → List Char → Option ℕ
  | _, _, [] => .none
  | .single, _, '\'' :: '\'' :: r => (findKeywordPhraseFrom phrase .single '\'' r).map (· + 2)
  | .single, _, c :: r =>
    (findKeywordPhraseFrom phrase (if c = '\'' then .none else .single) c r).map (· + 1)
  | .double, _, '"' :: '"' :: r => (findKeywordPhraseFrom phrase .double '"' r).map (· + 2)
  | .double, _, c :: r =>
    (findKeywordPhraseFrom phrase (if c = '"' then .none else .double) c r).map (· + 1)
  | .none, prev, c :: r =>
    if c = '\'' then (findKeywordPhraseFrom phrase .single c r).map (· + 1)
    else if c = '"' then (findKeywordPhraseFrom phrase .double c r).map (· + 1)
    else if phrase.isPrefixOf (toAsciiLowercase (c :: r)) && !prev.any isIdentByte &&
        !((c :: r).drop phrase.length).head?.any isIdentByte then some 0
    else (findKeywordPhraseFrom phrase .none c r).map (· + 1)

def findKeywordPhrase (phrase : String) (sql : List Char) : Option ℕ :=
  findKeywordPhraseFrom (toAsciiLowercase phrase.toList) .none .none sql

def looksLikeManagedPartitionCreate (sql : List Char) : Bool :=
  startsWith "create table " (normalizeForGuard sql) &&
    (findKeywordPhrase "partition by range" sql).isSome

def looksLikeCommentOn (sql : List Char) : Bool :=
  startsWith "comment on " (toAsciiLowercase (trimStart sql))

def looksLikeDropRoleCascade (sql : List Char) : Bool :=
  let ws := (trim (trimEndMatches ';' (trim sql))).splitOnP isAsciiWhitespace |>.filter (· != [])
  match ws with
  | drop :: role :: _ =>
    eqIgnoreAsciiCase drop "drop".toList && eqIgnoreAsciiCase role "role".toList &&
      ws.getLast?.any (eqIgnoreAsciiCase · "cascade".toList)
  | _ => false

def normalizeShowPartitions (sql : List Char) : List Char :=
  joinWords (words (toAsciiLowercase (trimEndMatches ';' (trim sql))))

def looksLikeShowPartitions (sql : List Char) : Bool :=
  startsWith "show partitions from " (normalizeShowPartitions sql)

end Rsduck.Sql
