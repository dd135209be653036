/-
This file reads and writes pages as JSON. A page is an object with two members, or the two numbers
in an array. Each may be missing and then takes its usual value; other members are passed over,
but the two may not be stated twice.
-/

import RecordMapper.Json.Reading
import RecordMapper.Page.Basic

namespace RecordMapper.Page

open RecordMapper.Json RecordMapper.Text

/-! ### Arrays -/

/-- The numbers of an array whose opening bracket has been read, of which there are at most so
many, and what follows the closing one. -/
def takeItems? : Nat → Bool → List Char → Option (List UInt64 × List Char)
  | room, isFirst, text =>
    match expect? ']' text with
    | some rest => some ([], rest)
    | none =>
      match room with
      | 0 => none
      | less + 1 =>
        match if isFirst then some text else expect? ',' text with
        | none => none
        | some item =>
          match number? item with
          | none => none
          | some (value, rest) =>
            (takeItems? less false rest).map fun (values, last) => (value :: values, last)

/-- The page that the numbers of an array state. -/
def ofItems : List UInt64 → Page
  | [] => usual
  | [number] => { number := number }
  | number :: limit :: _ => { number := number, limit := limit }

/-! ### Objects -/

/-- The two members of a page as far as they have been stated. -/
structure Members where
  number : Option UInt64 := none
  limit : Option UInt64 := none

/-- The members with the one of a name read from a text, and what follows. -/
def Members.read? (members : Members) (name : String) (text : List Char) :
    Option (Members × List Char) :=
  if name = "page" then
    if members.number.isSome then none
    else (number? text).map fun (value, rest) => ({ members with number := some value }, rest)
  else if name = "limit" then
    if members.limit.isSome then none
    else (number? text).map fun (value, rest) => ({ members with limit := some value }, rest)
  else (skip? text).map fun rest => (members, rest)

/-- The members of an object from one of them on, and what follows the closing brace. The first
argument bounds their number. -/
def takeMembers? : Nat → Members → List Char → Option (Members × List Char)
  | 0, _, _ => none
  | bound + 1, members, text =>
    match string? text with
    | none => none
    | some (name, named) =>
      match (expect? ':' named).bind (members.read? name) with
      | none => none
      | some (further, rest) =>
        match skipSpaces rest with
        | ',' :: after => takeMembers? bound further after
        | '\x7d' :: after => some (further, after)
        | _ => none

/-- The page that an object's members state. -/
def ofMembers (members : Members) : Page :=
  { number := members.number.getD usual.number, limit := members.limit.getD usual.limit }

/-! ### Texts -/

/-- The page at the beginning of a text, and what follows. -/
def take? (text : List Char) : Option (Page × List Char) :=
  match skipSpaces text with
  | '[' :: rest => (takeItems? 2 true rest).map fun (values, last) => (ofItems values, last)
  | '\x7b' :: rest =>
    match expect? '\x7d' rest with
    | some last => some (usual, last)
    | none =>
      (takeMembers? (rest.length + 1) {} rest).map fun (members, last) =>
        (ofMembers members, last)
  | _ => none

/-- The page that a text states. -/
def ofText? (text : String) : Option Page :=
  match take? text.toList with
  | some (page, rest) => if (skipSpaces rest).isEmpty then some page else none
  | none => none

/-- The text of a page. -/
def text (page : Page) : String :=
  "\x7b\"page\":" ++ naturalText page.number.toNat ++ ",\"limit\":" ++
    naturalText page.limit.toNat ++ "\x7d"

end RecordMapper.Page
