/-! # JSON values

An object is a list of fields. A number is kept as an integer, or as its spelling if it is written
with a fraction or an exponent: such a number is never taken for an integer. -/

namespace CardMachine

/-- A JSON value. -/
inductive Json where
  | null
  | bool (b : Bool)
  | int (i : Int)
  | real (spelling : String)
  | str (s : String)
  | arr (items : List Json)
  | obj (fields : List (String × Json))

namespace Json

/-- The value of a field; of several with one name the last counts. -/
def field? (fields : List (String × Json)) (name : String) : Option Json :=
  (fields.reverse.find? fun f => f.1 == name).map Prod.snd

/-- A character as a string of length one. -/
def ofChar (c : Char) : Json := str (String.singleton c)

end Json

end CardMachine
