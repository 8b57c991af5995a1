/-!
# Substitution

Replacing occurrences of a pattern in a text, scanning once from left to right. Occurrences do not
overlap and replaced text is not scanned again.
-/

namespace StylesheetBuild.Text

/-- Copies the text, skipping the first `skip` characters, with `new` for each occurrence of `old`. -/
def substituteFrom (old new : List Char) : Nat → List Char → List Char
  | _, [] => []
  | skip + 1, _ :: cs => substituteFrom old new skip cs
  | 0, c :: cs =>
    if old.isPrefixOf (c :: cs) then new ++ substituteFrom old new (old.length - 1) cs
    else c :: substituteFrom old new 0 cs

/-- The empty pattern occurs before every character and at the end. -/
def replaceAll (old new cs : List Char) : List Char :=
  if old.isEmpty then cs.flatMap (fun c => new ++ [c]) ++ new
  else substituteFrom old new 0 cs

/-- Replaces the leftmost occurrence only. -/
def replaceFirst (old new : List Char) : List Char → List Char
  | [] => if old.isEmpty then new else []
  | c :: cs =>
    if old.isPrefixOf (c :: cs) then new ++ (c :: cs).drop old.length
    else c :: replaceFirst old new cs

def occursIn (pattern : List Char) : List Char → Bool
  | [] => pattern.isEmpty
  | c :: cs => pattern.isPrefixOf (c :: cs) || occursIn pattern cs

def replaced (old new s : String) : String :=
  String.ofList (replaceAll old.toList new.toList s.toList)

end StylesheetBuild.Text
