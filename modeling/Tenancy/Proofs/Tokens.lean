import Tenancy.Sql.Identifier

/-! # Words of a statement

A server takes the text of a statement apart before it makes anything of it: into words, numbers,
parameters, delimited identifiers, operators and punctuation, each as long as it can be, with white
space between them.  `tokens?` takes a text apart in this way.  It knows what the statements of this
library are written with and refuses the rest, among it all characters that could begin a text
constant or a comment: a text that it takes apart has neither of them. -/

namespace Tenancy.Sql

/-- A part of a statement's text that means something as a whole. -/
inductive Token where
  /-- A keyword, or an identifier without quotes. -/
  | word (s : String)
  | number (digits : String)
  /-- The place of a parameter, by its number. -/
  | parameter (digits : String)
  /-- A delimited identifier, without its quotes and with each quote in it once. -/
  | name (s : String)
  | operator (s : String)
  | mark (c : Char)
  deriving DecidableEq

/-- Whether a character is white space. -/
def isSpace (c : Char) : Bool := " \t\n\r".toList.contains c

/-- Whether a character begins a word; all characters beyond ASCII do. -/
def beginsWord (c : Char) : Bool := c.isAlpha || c == '_' || 0x80 ≤ c.toNat

/-- Whether a character belongs to an operator. -/
def isOperator (c : Char) : Bool := "<>=*".toList.contains c

/-- Whether a character is punctuation. -/
def isMark (c : Char) : Bool := "(),.;".toList.contains c

/-- Where the reader of a text stands.  What was read of a token is kept last character first. -/
inductive Place where
  | between
  | inWord (read : List Char)
  | inNumber (read : List Char)
  | inParameter (read : List Char)
  | inOperator (read : List Char)
  | inName (read : List Char)
  /-- Behind a double quote in a delimited identifier, which is the last character of it or the
      first of two. -/
  | behindQuote (read : List Char)
  /-- Behind characters that are no token. -/
  | refused
  deriving DecidableEq

/-- The token made of characters that were kept last one first. -/
def ofRead (make : String → Token) (read : List Char) : List Token :=
  [make (String.ofList read.reverse)]

/-- Where the reader stands after a further character of the token that it is reading, if the
    character belongs to it. -/
def Place.goOn? : Place → Char → Option Place
  | between, _ => none
  | inWord read, c =>
    if beginsWord c || c.isDigit || c == '$' then some (inWord (c :: read)) else none
  | inNumber read, c =>
    if c.isDigit then some (inNumber (c :: read))
    else if beginsWord c || c == '$' || c == '.' then some refused else none
  | inParameter read, c =>
    if c.isDigit then some (inParameter (c :: read))
    else if beginsWord c || c == '$' then some refused else none
  | inOperator read, c => if isOperator c then some (inOperator (c :: read)) else none
  | inName read, c => if c = '"' then some (behindQuote read) else some (inName (c :: read))
  | behindQuote read, c => if c = '"' then some (inName ('"' :: read)) else none
  | refused, _ => some refused

/-- The token that ends where the reader stands, unless one is incomplete there. -/
def Place.ended? : Place → Option (List Token)
  | between => some []
  | inWord read => some (ofRead .word read)
  | inNumber read => some (ofRead .number read)
  | inParameter read => if read = [] then none else some (ofRead .parameter read)
  | inOperator read => some (ofRead .operator read)
  | behindQuote read => some (ofRead .name read)
  | inName _ | refused => none

/-- What a character is where no token goes on with it: a token of its own, and where the reader
    stands after it. -/
def begin? (c : Char) : Option (List Token × Place) :=
  if isSpace c then some ([], .between)
  else if beginsWord c then some ([], .inWord [c])
  else if c.isDigit then some ([], .inNumber [c])
  else if c = '$' then some ([], .inParameter [])
  else if c = '"' then some ([], .inName [])
  else if isOperator c then some ([], .inOperator [c])
  else if isMark c then some ([.mark c], .between)
  else none

/-- The reader of a text: the tokens that have ended, and where it stands. -/
structure Reader where
  done : List Token := []
  place : Place := .between

namespace Reader

/-- Reads a character. -/
def step (r : Reader) (c : Char) : Option Reader :=
  match r.place.goOn? c with
  | some place => some ⟨r.done, place⟩
  | none => do
    let ended ← r.place.ended?
    let (begun, place) ← begin? c
    return ⟨r.done ++ ended ++ begun, place⟩

/-- Reads characters, the first one first. -/
def read (r : Reader) (cs : List Char) : Option Reader := cs.foldlM step r

/-- The tokens, where the text ends here. -/
def finish? (r : Reader) : Option (List Token) := r.place.ended?.map (r.done ++ ·)

end Reader

/-- The tokens of a text. -/
def tokens? (text : String) : Option (List Token) :=
  (({} : Reader).read text.toList).bind Reader.finish?

end Tenancy.Sql
