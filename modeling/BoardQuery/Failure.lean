import BoardQuery.Facet
import BoardQuery.Json.Fault
import BoardQuery.Text.Literal

/-!
# What can fail

Reading a search never fails. Setting it up can, and so can a report about a name for a facet
whose values name nothing.
-/

namespace BoardQuery

/-- Why a settings file cannot be read. -/
inductive FileFault where
  | absent | notUtf8
deriving DecidableEq, Repr

def FileFault.message : FileFault → String
  | absent => "No such file or directory (os error 2)"
  | notUtf8 => "stream did not contain valid UTF-8"

/-- Why an operation on settings or on a query fails. -/
inductive Failure where
  | unreadable (path : String) (fault : FileFault)
  | notSettings (fault : Json.Fault)
  /-- The wording of a keyword's tag could never be read as a keyword. -/
  | untypeable (tag text : String)
  | namesNothing (facet : Facet)
deriving DecidableEq, Repr

def Failure.message : Failure → String
  | unreadable path fault => "IO error reading " ++ path ++ ": " ++ fault.message
  | notSettings fault => "Serialization error: " ++ fault.message
  | untypeable tag text =>
    "Invalid config: keyword " ++ Text.literal text ++ " for " ++ tag ++
      " cannot be typed as an operator"
  | namesNothing facet =>
    "Invalid input: operator " ++ facet.name ++ " has no not-found error"

end BoardQuery
