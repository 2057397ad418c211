/-!
White space, and text without the white space around it.
-/

set_option autoImplicit false

namespace SessionAuth.Text

/-- Whether a character is white space: the blanks and line ends of ASCII, the next-line control,
and the spaces and separators of other scripts. -/
def isBlank (c : Char) : Bool :=
  let n := c.toNat
  (9 ≤ n && n ≤ 13) || n == 32 || n == 0x85 || n == 0xa0 || n == 0x1680 ||
    (0x2000 ≤ n && n ≤ 0x200a) || n == 0x2028 || n == 0x2029 || n == 0x202f || n == 0x205f ||
    n == 0x3000

/-- Text without the white space before it. -/
def trimLeft (l : List Char) : List Char := l.dropWhile isBlank

/-- Text without the white space around it. -/
def trim (l : List Char) : List Char := (trimLeft (trimLeft l).reverse).reverse

end SessionAuth.Text
