import PagedTables.Text.Quoted
import PagedTables.TypeText.Meaning

/-!
# Displays of meanings

How meanings are shown where a text is made of them: types by their names, forms as they would be
written, and collections between their brackets. An object of which only the type is known has no
display if it could be a number or a text; otherwise it is shown as some object of its type.
-/
namespace PagedTables.TypeText.Meaning

/-- The fault of an operation whose operands do not have it. -/
def unfit {α : Type} : Found α :=
  .error .senseless

/-- Some value of a type. -/
def unknown (typeName : String) : Meaning :=
  object typeName ""

/-- The elements of a tuple, or the meaning alone. -/
def asArguments : Meaning → List Meaning
  | tuple xs => xs
  | m => [m]

/-- The name of the way in which an alternative is built. -/
def unionName (members : List Meaning) : String :=
  if members.length = 2 && members.any (same nullType) then "Optional" else "Union"

/-- How deep types are written. -/
def textDepth : Nat := 64

/-- The types whose values show what they are, unless it is not known. -/
def plainNumbers : List String :=
  ["int", "float", "complex", "str"]

/-- The display of a meaning, as far as it is known. -/
def display? (fuel : Nat) (m : Meaning) : Option String :=
  match fuel with
  | 0 => none
  | fuel + 1 =>
    let all (xs : List Meaning) : Option String :=
      (xs.mapM (display? fuel)).map (", ".intercalate ·)
    let part? (nullName : String) : Meaning → Option String
      | named "Any" => some "typing.Any"
      | named "NoneType" => some nullName
      | named c => some c
      | object "ellipsis" _ => some "..."
      | m => display? fuel m
    let applied? (head : String) (xs : List Meaning) : Option String :=
      (xs.mapM (part? "NoneType")).map fun parts =>
        head ++ "[" ++ (if parts.isEmpty then "()" else ", ".intercalate parts) ++ "]"
    match m with
    | nothing => some "None"
    | value v => some v.display
    | named c => some (if c = "Any" then "typing.Any" else "<class '" ++ c ++ "'>")
    | builder c => some ("typing." ++ c)
    | applied head xs => applied? (if head = "List" then "typing.List" else head) xs
    | anyOf members =>
      let others := members.filter fun m => !same m nullType
      if unionName members = "Optional" then applied? "typing.Optional" others
      else applied? "typing.Union" members
    | barred members => (members.mapM (part? "None")).map (" | ".intercalate ·)
    | annotated x notes => do
      let notes ← notes.mapM (display? fuel)
      return "typing.Annotated[" ++ ", ".intercalate ((← part? "NoneType" x) :: notes) ++ "]"
    | quoted s => some ("ForwardRef(" ++ (Value.text s).display ++ ")")
    | object "ellipsis" name => some name
    | object "NotImplementedType" name => some name
    | object "builtin_function_or_method" name => some ("<built-in function " ++ name ++ ">")
    | object t _ => if plainNumbers.contains t then none else some ("<" ++ t ++ " object>")
    | details "function" _ _ => some "<function>"
    | details t _ attributes =>
      (attributes.mapM fun (n, m) => (display? fuel m).map fun s => n ++ "=" ++ s).map fun parts =>
        t ++ "(" ++ ",".intercalate parts ++ ")"
    | method _ name => some ("<method " ++ name ++ ">")
    | tuple [x] => (all [x]).map fun s => "(" ++ s ++ ",)"
    | tuple xs => (all xs).map fun s => "(" ++ s ++ ")"
    | list xs => (all xs).map fun s => "[" ++ s ++ "]"
    | set [] => some "set()"
    | set xs => (all xs).map fun s => "\x7b" ++ s ++ "\x7d"
    | dict entries => (entries.mapM fun (k, x) => do
        return (← display? fuel k) ++ ": " ++ (← display? fuel x)).map fun parts =>
          "\x7b" ++ ", ".intercalate parts ++ "\x7d"
    | function .. => some "<function>"
    | series t _ => if countedTypes.contains t then none else some ("<" ++ t ++ " object>")

/-- The text that is made of a meaning, by its display if that is asked for. -/
def textOf? (isDisplay : Bool) (m : Meaning) : Option String :=
  match m with
  | value v => some (if isDisplay then v.display else v.toText)
  | m => display? textDepth m

/-- The text that a mark asks for: the display of a meaning, that display with nothing but ASCII
characters in it, or else the text that is made of the meaning. -/
def markedText? (mark : Char) (m : Meaning) : Option String :=
  match mark with
  | 'r' => textOf? true m
  | 'a' => (textOf? true m).map fun s => String.ofList (Text.asciiOnly s.toList)
  | _ => textOf? false m

end PagedTables.TypeText.Meaning
