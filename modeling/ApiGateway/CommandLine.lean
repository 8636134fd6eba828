/-!
# The command line

Where the configuration is, and where the gateway and its pages for operators listen.
-/

namespace ApiGateway

structure Options where
  config : String := "config.toml"
  listen : String := "0.0.0.0:8080"
  adminListen : String := "0.0.0.0:9091"
deriving DecidableEq

namespace Options

/-- How the program is called. -/
def usage : String :=
  String.intercalate "\n"
    ["API gateway request pipeline", "",
     "Usage: api-gateway [OPTIONS]", "",
     "Options:",
     "  -c, --config <CONFIG>              Path to gateway config file (.toml or .json) "
       ++ "[default: config.toml]",
     "  -l, --listen <LISTEN>              Listen address [default: 0.0.0.0:8080]",
     "      --admin-listen <ADMIN_LISTEN>  Admin API listen address (health, metrics, "
       ++ "configuration) [default: 0.0.0.0:9091]",
     "  -h, --help                         Print help"]

/-- An option with its value behind an equals sign, as two words. -/
def separate (word : String) : List String :=
  let name := word.toList.takeWhile (· ≠ '=')
  if word.startsWith "--" ∧ name.length < word.length then
    [String.ofList name, String.ofList (word.toList.drop (name.length + 1))]
  else [word]

/-- Sets the option of a name. -/
def set? (o : Options) (name value : String) : Option Options :=
  if name = "-c" ∨ name = "--config" then some { o with config := value }
  else if name = "-l" ∨ name = "--listen" then some { o with listen := value }
  else if name = "--admin-listen" then some { o with adminListen := value }
  else none

/-- Reads words; a complaint if one of them is not understood. -/
def read (o : Options) : List String → Except String Options
  | [] => .ok o
  | [word] =>
      match o.set? word "" with
      | some _ => .error s!"a value is required for '{word}' but none was supplied"
      | none => .error s!"unexpected argument '{word}' found"
  | name :: value :: rest =>
      match o.set? name value with
      | some o => o.read rest
      | none => .error s!"unexpected argument '{name}' found"

def ofArguments (args : List String) : Except String Options :=
  ({} : Options).read (args.flatMap separate)

end Options
end ApiGateway
