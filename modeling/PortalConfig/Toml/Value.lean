import PortalConfig.Keyed
import PortalConfig.Number.Binary64

/-!
# Values of TOML documents

A date or a time stays as it is written. Tables keep the order in which their keys first appear.
-/

namespace PortalConfig.Toml

/-- A value. -/
inductive Value
  | string (text : String)
  | integer (value : Int)
  | float (value : Binary64)
  | boolean (value : Bool)
  | datetime (text : String)
  | array (items : List Value)
  | table (entries : List (String × Value))

instance : Inhabited Value := ⟨.table []⟩

end PortalConfig.Toml
