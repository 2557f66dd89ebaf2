set_option autoImplicit false

/-!
# Filters

A filter text as a full-text query: every piece between single spaces becomes a quoted term that
matches words by their beginning, and all terms have to match.
-/

namespace LiveTable.Filter

/-- Quotes of both kinds are doubled, everything else stands for itself. -/
def escape : List Char → List Char
  | [] => []
  | c :: rest => if c = '"' ∨ c = '\'' then c :: c :: escape rest else c :: escape rest

/-- The term that matches words beginning with the given one. -/
def term (word : List Char) : List Char := '"' :: escape word ++ ['"', '*']

/-- The pieces of a text between single spaces, empty ones included. -/
def pieces : List Char → List (List Char)
  | [] => [[]]
  | c :: rest =>
    if c = ' ' then [] :: pieces rest
    else
      match pieces rest with
      | [] => [[c]]
      | piece :: others => (c :: piece) :: others

def connective : List Char := " AND ".toList

def join : List (List Char) → List Char
  | [] => []
  | [last] => last
  | term :: rest => term ++ connective ++ join rest

/-- The query for a filter text; no text is no filter. -/
def compile (text : String) : String :=
  if text.isEmpty then "" else String.ofList (join ((pieces text.toList).map term))

example : compile "foo bar" = "\"foo\"* AND \"bar\"*" := by decide

example : compile "it's \"" = "\"it''s\"* AND \"\"\"\"*" := by decide

end LiveTable.Filter
