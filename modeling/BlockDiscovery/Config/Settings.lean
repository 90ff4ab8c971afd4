import BlockDiscovery.Json.Decode

/-!
# Server settings

What a client must know about the language server it starts, with the defaults of all
that need not be said.  Times are in milliseconds.
-/

namespace BlockDiscovery.Config

open BlockDiscovery.Json

/-- The settings of one language server. -/
structure ServerSettings where
  /-- The executable, looked up in the search path. -/
  command : String
  args : List String
  /-- Variables added to the environment of the server. -/
  environment : List (String × String)
  /-- The working directory of the server. -/
  directory : Option String
  /-- The root of the workspace; by default the working directory. -/
  root : Option String
  /-- The language id of opened documents, which also chooses the adapter. -/
  language : String
  /-- Options that are handed to the server as they are. -/
  initOptions : Option Value
  requestTimeout : Nat
  diagnosticsTimeout : Nat
  /-- How long a publication must stay the latest one. -/
  settleTime : Nat
  shutdownGrace : Nat
  deriving Repr, BEq, Inhabited

namespace ServerSettings

/-- The settings for a command and a language, all else by default. -/
def make (command language : String) : ServerSettings where
  command := command
  args := []
  environment := []
  directory := none
  root := none
  language := language
  initOptions := none
  requestTimeout := 30000
  diagnosticsTimeout := 5000
  settleTime := 150
  shutdownGrace := 2000

def schema : Schema ServerSettings where
  name := "ServerConfig"
  blank := make "" ""
  fields :=
    [.needed "command" .string fun v s => { s with command := v },
      .defaulted "args" (.list .string) fun v s => { s with args := v },
      .defaulted "env" (.dictionary .string) fun v s => { s with environment := v },
      .defaulted "cwd" (.optional (.stringAs "path string")) fun v s => { s with directory := v },
      .defaulted "root" (.optional (.stringAs "path string")) fun v s => { s with root := v },
      .needed "language" .string fun v s => { s with language := v },
      .defaulted "initialization_options" (.optional .value) fun v s => { s with initOptions := v },
      .defaulted "timeout_ms" .unsigned64 fun v s => { s with requestTimeout := v },
      .defaulted "diagnostics_timeout_ms" .unsigned64 fun v s => { s with diagnosticsTimeout := v },
      .defaulted "diagnostics_settle_ms" .unsigned64 fun v s => { s with settleTime := v },
      .defaulted "shutdown_grace_ms" .unsigned64 fun v s => { s with shutdownGrace := v }]

def decode : Decoder ServerSettings := schema.decode

end ServerSettings

end BlockDiscovery.Config
