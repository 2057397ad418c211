/-!
Splitting text at characters.
-/

set_option autoImplicit false

namespace SessionAuth.Text

/-- The text before the last occurrence of a character, and the text behind it. -/
def splitAtLast? (separator : Char) : List Char → Option (List Char × List Char)
  | [] => none
  | c :: rest =>
    match splitAtLast? separator rest with
    | some (before, behind) => some (c :: before, behind)
    | none => if c = separator then some ([], rest) else none

/-- The text before the first character that passes a test, and the text from there on. -/
def splitBefore (stop : Char → Bool) (l : List Char) : List Char × List Char :=
  (l.takeWhile fun c => !stop c, l.dropWhile fun c => !stop c)

end SessionAuth.Text
