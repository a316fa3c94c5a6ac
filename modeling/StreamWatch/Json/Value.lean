/-! Values of unknown shape: what a page's script returns, and what a report holds. Whole and binary
numbers are apart, and the fields of a record keep their order. -/
namespace StreamWatch.Json

inductive Value
  | null
  | bool (b : Bool)
  | int (n : Int)
  | float (x : Float)
  | text (s : String)
  | list (items : List Value)
  | record (fields : List (String × Value))
  deriving Inhabited

namespace Value

def isPresent : Value → Bool
  | null => false
  | bool b => b
  | int n => n != 0
  | float x => !(x == 0)
  | text s => s != ""
  | list items => !items.isEmpty
  | record fields => !fields.isEmpty

def find? (key : String) (fields : List (String × Value)) : Option Value :=
  (fields.find? (·.1 == key)).map (·.2)

def field (key : String) (fields : List (String × Value)) : Value := (find? key fields).getD .null

def orElse (v other : Value) : Value := if v.isPresent then v else other

def isNull : Value → Bool
  | null => true
  | _ => false

def ofOption {α : Type} (f : α → Value) : Option α → Value
  | none => null
  | some a => f a

theorem isNull_iff (v : Value) : v.isNull = true ↔ v = .null := by
  cases v <;> simp [isNull]

end Value
end StreamWatch.Json
