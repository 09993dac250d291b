import NodeFlow.Value.Basic

/-!
# Printing values

One printer for every notation of values that the program writes. A `Style` fixes the spelling of
the scalars, the separators, and what stands between a bracket or comma and the next item.
-/

namespace NodeFlow

/-- The spellings of a notation. -/
structure Style where
  null : List Char
  yes : List Char
  no : List Char
  float : Binary64 → List Char
  quote : List Char → List Char
  comma : List Char
  colon : List Char
  /-- What stands before an item, or before the bracket that ends its container, at a depth. -/
  newline : Nat → List Char

namespace Style

/-- A binary64 number with the notation's names for the numbers that are not finite. -/
def writeFloat (nan infinity : String) : Binary64 → List Char
  | .nan => nan.toList
  | .infinite negative => (if negative then ['-'] else []) ++ infinity.toList
  | .finite negative units _ => Layout.data.write negative (Binary64.shortest units)

end Style

namespace Value

mutual

/-- A value in a style, at a depth of nesting. -/
def write (style : Style) (depth : Nat) : Value → Except ConversionError (List Char)
  | .null => .ok style.null
  | .bool b => .ok (if b then style.yes else style.no)
  | .int n => writeInt n
  | .float x => .ok (style.float x)
  | .text s => .ok (style.quote s.toList)
  | .list [] => .ok ['[', ']']
  | .list (item :: rest) => do
    let first ← write style (depth + 1) item
    let others ← writeItems style (depth + 1) rest
    return '[' :: style.newline (depth + 1) ++ first ++ others ++ style.newline depth ++ [']']
  | .dict [] => .ok ['{', '}']
  | .dict ((key, value) :: rest) => do
    let first ← write style (depth + 1) value
    let others ← writeFields style (depth + 1) rest
    return '{' :: style.newline (depth + 1) ++ style.quote key.toList ++ style.colon ++ first
      ++ others ++ style.newline depth ++ ['}']

/-- The items after the first, each behind a comma. -/
def writeItems (style : Style) (depth : Nat) : List Value → Except ConversionError (List Char)
  | [] => .ok []
  | item :: rest => do
    let text ← write style depth item
    let others ← writeItems style depth rest
    return style.comma ++ style.newline depth ++ text ++ others

/-- The fields after the first, each behind a comma. -/
def writeFields (style : Style) (depth : Nat) :
    List (String × Value) → Except ConversionError (List Char)
  | [] => .ok []
  | (key, value) :: rest => do
    let text ← write style depth value
    let others ← writeFields style depth rest
    return style.comma ++ style.newline depth ++ style.quote key.toList ++ style.colon ++ text
      ++ others

end

end Value

end NodeFlow
