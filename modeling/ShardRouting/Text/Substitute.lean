/-! Replacing every occurrence of a word in a text, and cutting a text at a mark. -/

namespace ShardRouting
namespace Text

/-- Replaces every occurrence of `word`, found from the left and without overlap. `skip` counts the
    characters of the occurrence just replaced that are still to be left out. An empty word occurs nowhere. -/
def replaceFrom (word new : List Char) (skip : Nat) : List Char → List Char
  | [] => []
  | c :: cs =>
    match skip with
    | skip + 1 => replaceFrom word new skip cs
    | 0 =>
      if word ≠ [] ∧ word.isPrefixOf (c :: cs) then new ++ replaceFrom word new (word.length - 1) cs
      else c :: replaceFrom word new 0 cs

def replaceChars (word new cs : List Char) : List Char := replaceFrom word new 0 cs

/-- `text` with every `word` replaced by `new`. -/
def replace (text word new : String) : String :=
  String.ofList (replaceChars word.toList new.toList text.toList)

/-- The text before and after the first `mark`. -/
def cutAt (mark : Char) (s : String) : Option (String × String) :=
  let cs := s.toList
  if cs.contains mark then
    some (String.ofList (cs.takeWhile (· ≠ mark)), String.ofList ((cs.dropWhile (· ≠ mark)).drop 1))
  else
    none

/-- What follows the last `mark`; all of the text when it has none. -/
def afterLast (mark : Char) (s : String) : String :=
  String.ofList (s.toList.reverse.takeWhile (· ≠ mark)).reverse

/-- `word` stands somewhere in the list. -/
def occurs (word : List Char) : List Char → Bool
  | [] => word.isEmpty
  | c :: cs => word.isPrefixOf (c :: cs) || occurs word cs

end Text
end ShardRouting
