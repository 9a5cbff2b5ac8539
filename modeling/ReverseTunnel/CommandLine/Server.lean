import ReverseTunnel.CommandLine.Arguments

/-!
# The command line of the server

All settings of the server are in its configuration; the command line says where that is.
-/

namespace ReverseTunnel.CommandLine

/-- What the server is to do. -/
structure ServerCommand where
  /-- The path of the configuration file. -/
  config : String
  deriving DecidableEq, Repr

/-- What may be given. -/
def serverForm : Form where
  options := [{ name := "config", letter := some 'c' }]

/-- What the arguments of the server mean. -/
def readServer (arguments : List String) : Except Stop ServerCommand := do
  let given ← serverForm.read arguments
  return ⟨(given.value? "config").getD "server.toml"⟩

end ReverseTunnel.CommandLine
