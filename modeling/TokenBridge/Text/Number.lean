/-!
# Numbers in text

Which texts are numbers, whole or not, in the usual decimal spelling: a sign, digits, a point, an
exponent. The values that are not finite have names.
-/

namespace TokenBridge.Text

def unsigned : List Char → List Char
  | '+' :: rest | '-' :: rest => rest
  | s => s

/-- The names of the values that are not finite. -/
def specialNumbers : List String :=
  ["inf", "infinity", "nan"]

/-- Whether an exponent is missing, or has digits. -/
def isExponent : List Char → Bool
  | [] => true
  | c :: rest =>
    let digits := unsigned rest
    (c == 'e' || c == 'E') && !digits.isEmpty && digits.all Char.isDigit

/-- Whether a text is a number. There are digits on one side of the point at least, which can be
missing. Letters are of either case. -/
def isNumber (s : List Char) : Bool :=
  let s := unsigned s
  let whole := s.takeWhile Char.isDigit
  specialNumbers.contains ((String.ofList s).map Char.toLower) ||
    match s.dropWhile Char.isDigit with
    | '.' :: rest =>
      !(whole.isEmpty && (rest.takeWhile Char.isDigit).isEmpty) &&
        isExponent (rest.dropWhile Char.isDigit)
    | rest => !whole.isEmpty && isExponent rest

end TokenBridge.Text
