import ShardRouting.Routing.Param
import ShardRouting.Text.Substitute

/-! Bindings of parameters on the command line, written `KEY=VALUE`. -/

namespace ShardRouting

inductive BindingFault where
  | noEquals (raw : String)
  | noKey (raw : String)
  deriving DecidableEq, Repr

def BindingFault.message : BindingFault → String
  | noEquals raw => "invalid binding '" ++ raw ++ "': expected KEY=VALUE"
  | noKey raw => "invalid binding '" ++ raw ++ "': empty key"

/-- A key and the value bound to it. Blanks around either are left out. -/
def parseBinding (raw : String) : Except BindingFault (ParamKey × ShardValue) :=
  match Text.cutAt '=' raw with
  | none => .error (.noEquals raw)
  | some (key, value) =>
    if Text.isBlankText key then .error (.noKey raw)
    else .ok (.ofText (Text.trim key), .ofText (Text.trim value))

end ShardRouting
