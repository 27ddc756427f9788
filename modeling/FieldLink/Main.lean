import FieldLink.CommandLine
import FieldLink.Config.Printer
import FieldLink.Config.Reader
import FieldLink.Transport.SerialPort

/-!
# The program

Prints a sample configuration, or checks a configuration and says which ports its links would open.
-/

namespace FieldLink

/-- The line that says how a link's port would be opened. -/
def LinkConfig.report (link : LinkConfig) : String :=
  match SerialPort.settings link.options with
  | .ok _ => link.options.text
  | .error e => e.message

/-- What is printed for what the arguments ask for, once the configuration is read. -/
def Invocation.output (invocation : Invocation) (config : Config) :
    Except LinkError (List String) :=
  match invocation.command with
  | some .sampleConfig => .ok [Config.sample.text]
  | none => config.validate.map fun () => config.links.map LinkConfig.report

/-- The configuration at a path, or the empty one. -/
def loadConfig : Option String → IO (Except LinkError Config)
  | none => pure (.ok { })
  | some path => do
    let contents ← (some <$> IO.FS.readBinFile path) <|> pure none
    pure (Config.ofFile contents)

end FieldLink

open FieldLink in
/-- Runs the program on its arguments. -/
def main (args : List String) : IO UInt32 := do
  match Invocation.ofArguments args with
  | .error .help => IO.println "[config] [--log-level LEVEL] [--log-dir DIR] [examples config]"; pure 0
  | .error .version => IO.println "0.1.0"; pure 0
  | .error _ => IO.eprintln "these arguments make no sense"; pure 2
  | .ok invocation =>
    let config ← if invocation.command.isSome then pure (.ok { }) else loadConfig invocation.config
    match config >>= invocation.output with
    | .ok lines => lines.forM IO.println; pure 0
    | .error e => IO.eprintln e.message; pure 1
