/-
This file forms the plural of an English noun in lower case. A few nouns have no plural of their
own and a few have an irregular one; the rest follow the spelling of their ending.
-/

namespace RecordMapper.Naming

/-- Nouns whose plural is the noun itself. -/
def uncountable : List String :=
  ["data", "equipment", "information", "metadata", "news", "series", "species"]

/-- Nouns with a plural of their own. -/
def irregular : List (String × String) :=
  [("person", "people"), ("man", "men"), ("woman", "women"), ("child", "children"),
    ("mouse", "mice"), ("goose", "geese")]

/-- The vowels before which a final y is kept. -/
def isVowel (character : Char) : Bool :=
  ['a', 'e', 'i', 'o', 'u'].contains character

/-- The regular plural of a noun, whose letters are given from the last to the first. -/
def regularPlural (reversed : List Char) : List Char :=
  match reversed with
  | 'y' :: before :: rest =>
    if isVowel before then ('s' :: reversed).reverse
    else ('s' :: 'e' :: 'i' :: before :: rest).reverse
  | 's' :: _ | 'x' :: _ | 'z' :: _ | 'h' :: 'c' :: _ | 'h' :: 's' :: _ =>
    ('s' :: 'e' :: reversed).reverse
  | _ => ('s' :: reversed).reverse

/-- The plural of a noun. -/
def pluralize (word : String) : String :=
  if word.isEmpty || uncountable.contains word then word
  else
    match irregular.lookup word with
    | some plural => plural
    | none => String.ofList (regularPlural word.toList.reverse)

end RecordMapper.Naming
