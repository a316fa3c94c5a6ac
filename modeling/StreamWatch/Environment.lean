import StreamWatch.Text.Classes
import StreamWatch.Text.Lowercase

/-! Variables a check is started with. A variable can be absent, present without a value, or present
with a text; most readers take the first two, and an empty text, alike. -/
namespace StreamWatch

abbrev Environment := List (String × Option String)

namespace Environment

def has (env : Environment) (name : String) : Bool := env.any (·.1 == name)

def get? (env : Environment) (name : String) : Option String :=
  (env.find? (·.1 == name)).bind (·.2)

def getOr (env : Environment) (name fallback : String) : String := (env.get? name).getD fallback

def text (env : Environment) (name : String) : String := env.getOr name ""

def nonEmpty? (env : Environment) (name : String) : Option String :=
  (env.get? name).filter (· ≠ "")

def refusals : List String := ["0", "false", "no", "off", ""]

/-- A variable is on if it has a text other than a refusal. -/
def flag (env : Environment) (name : String) : Bool :=
  match env.get? name with
  | none => false
  | some value => !refusals.contains (.ofList (Text.lower (Text.trim value.toList)))

end Environment
end StreamWatch
