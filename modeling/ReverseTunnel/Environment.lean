import ReverseTunnel.Table
import ReverseTunnel.Text.Number
import ReverseTunnel.Text.Utf8

/-!
# Settings from the environment

Every setting can be given by a variable of the environment, whose name begins with that of the
program. A variable that is blank, or no text, counts as one that is not set; so does one whose
text is not of the kind that is wanted.
-/

namespace ReverseTunnel

/-- The variables of the environment. -/
abbrev Environment := Table String Bytes

namespace Environment

/-- The text of a setting. -/
def text? (env : Environment) (name : String) : Option String :=
  ((env.get? ("SLUICE_" ++ name)).bind Text.Utf8.decode?).filter fun text => !Text.blank text

/-- The port number of a setting. -/
def port? (env : Environment) (name : String) : Option UInt16 :=
  (env.text? name).bind fun text => Text.port? (Text.trim text)

/-- The number of a setting. -/
def number? (env : Environment) (name : String) : Option Int :=
  (env.text? name).bind fun text => Text.signed? (Text.trim text)

/-- The truth of a setting. -/
def boolean? (env : Environment) (name : String) : Option Bool :=
  (env.text? name).bind fun text =>
    let word := Text.lower (Text.trim text)
    if ["1", "true", "yes", "on"].contains word then some true
    else if ["0", "false", "no", "off"].contains word then some false
    else none

end Environment

end ReverseTunnel
