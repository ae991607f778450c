/-!
Splitting texts at a character.
-/

namespace CampaignConsole.Text

/-- The characters before the first `c` and after it, if there is one. -/
def splitCharsAtFirst (c : Char) (cs : List Char) : Option (List Char × List Char) :=
  match cs.dropWhile (· != c) with
  | [] => none
  | _ :: after => some (cs.takeWhile (· != c), after)

/-- The text before the first `c` and after it, if there is one. -/
def splitAtFirst (c : Char) (s : String) : Option (String × String) :=
  (splitCharsAtFirst c s.toList).map fun (before, after) =>
    (String.ofList before, String.ofList after)

end CampaignConsole.Text
