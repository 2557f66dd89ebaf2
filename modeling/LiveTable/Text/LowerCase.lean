import LiveTable.Text.CaseData
set_option autoImplicit false

/-!
# Small letters

The small form of a text under the full, locale-independent case mapping. Two characters need more
than a table: the capital I with a dot becomes two characters, and a capital sigma that ends a word
becomes the final sigma.
-/

namespace LiveTable.Text

def inRanges (ranges : List (Nat × Nat)) (c : Char) : Bool :=
  ranges.any fun (first, last) => first ≤ c.toNat && c.toNat ≤ last

def isCased (c : Char) : Bool := inRanges casedRanges c

def isCaseIgnorable (c : Char) : Bool := inRanges caseIgnorableRanges c

def CaseRun.covers (run : CaseRun) (c : Char) : Bool :=
  run.first ≤ c.toNat && c.toNat ≤ run.last && (c.toNat - run.first) % run.step == 0

def lowerChar (c : Char) : Char :=
  match lowerRuns.find? (·.covers c) with
  | some run => Char.ofNat ((c.toNat : Int) + run.shift).toNat
  | none => c

/-- Whether the nearest character that counts is one with case. -/
def meetsCased (cs : List Char) : Bool :=
  ((cs.dropWhile isCaseIgnorable).head?.map isCased).getD false

/-- The small form of the characters after `before`, which is kept in reverse. A sigma ends a word
when a cased character comes before it and none comes after it. -/
def lowerFrom (before : List Char) : List Char → List Char
  | [] => []
  | c :: rest =>
    let small :=
      if c = 'Σ' then [if meetsCased before && !meetsCased rest then 'ς' else 'σ']
      else if c = 'İ' then ['i', '\u0307']
      else [lowerChar c]
    small ++ lowerFrom (c :: before) rest

def toLower (text : String) : String := String.ofList (lowerFrom [] text.toList)

example : toLower "ΌΣΟΣ ΣΑΣ" = "όσος σας" := by decide +kernel

example : toLower "ΑΣ'Α Ⅷ" = "ασ'α ⅷ" := by decide +kernel

end LiveTable.Text
