/-!
# Records of separated fields

A text of records holds one record a line, with a comma between each two fields. A line ends at a line
feed, at a carriage return, or at both in this order. A field that starts with a double quote is
quoted: commas and line ends up to the closing quote belong to it, and two quotes in a row stand for
one. What follows after the closing quote up to the end of the field is part of it, too. A quote that
never closes is closed by the end of the text.

A blank line is a record without fields.

## Main definitions

* `Record`: the fields of a line.
* `Record.scan`: the records of a text, those that are complete and the one that the text ends in.
* `Record.readAll`, `Record.readCertain`: the records of a text that is all there, or goes on.
* `Record.write`: the line of a record.
-/

namespace ExactAlgebra

/-- The fields of one record. -/
abbrev Record := List (List Char)

namespace Record

/-- Where a reader is in a record. -/
inductive Place where
  /-- At the start of a record. -/
  | start
  /-- At the start of a field. -/
  | field
  /-- In a field, outside of quotes. -/
  | plain
  /-- Between quotes. -/
  | quoted
  /-- After a quote that was between quotes. -/
  | closing
  deriving DecidableEq

/-- A record of which a part was read. -/
structure Partial where
  /-- Where the reader is. -/
  place : Place
  /-- The complete fields, the last one first. -/
  fields : Record
  /-- The characters of the field that is being read, the last one first. -/
  current : List Char

namespace Partial

/-- Nothing was read. -/
def empty : Partial := ⟨.start, [], []⟩

/-- The fields when the record ends here. -/
def finish (p : Partial) : Record :=
  match p.place with
  | .start => []
  | _ => (p.current.reverse :: p.fields).reverse

/-- A line end that comes now ends the record. -/
def isOpen (p : Partial) : Bool := p.place != .quoted

/-- One more character, other than a line end outside of quotes. -/
def push (p : Partial) (c : Char) : Partial :=
  match p.place with
  | .quoted => if c = '"' then { p with place := .closing } else { p with current := c :: p.current }
  | .closing =>
    if c = '"' then { p with place := .quoted, current := c :: p.current }
    else plainPush
  | .start | .field => if c = '"' then { p with place := .quoted } else plainPush
  | .plain => plainPush
where
  /-- One more character outside of quotes. -/
  plainPush : Partial :=
    if c = ',' then ⟨.field, p.current.reverse :: p.fields, []⟩
    else { p with place := .plain, current := c :: p.current }

end Partial

/-- The records of a text: those that are complete, and the fields of the one that the text ends in, if
it ends in one. The first argument is what was read of the first record. -/
def scan (p : Partial) : List Char → List Record × Option Record
  | [] => ([], if p.place = .start then none else some p.finish)
  | '\r' :: '\n' :: cs =>
    if p.isOpen then
      let (complete, last) := scan .empty cs
      (p.finish :: complete, last)
    else scan ((p.push '\r').push '\n') cs
  | c :: cs =>
    if (c = '\n' || c = '\r') && p.isOpen then
      let (complete, last) := scan .empty cs
      (p.finish :: complete, last)
    else scan (p.push c) cs

/-- The records of a text. -/
def readAll (text : List Char) : List Record :=
  let (complete, last) := scan .empty text
  complete ++ last.toList

/-- The records of a text that goes on in an unknown way: only those that are complete for certain. A
carriage return at the end may be the first half of a line end. -/
def readCertain (text : List Char) : List Record :=
  let certain := if text.getLast? = some '\r' then text.dropLast else text
  (scan .empty certain).1

/-- The line of a record whose fields need no quotes. -/
def write (r : Record) : List Char :=
  [','].intercalate r ++ ['\n']

end Record

end ExactAlgebra
