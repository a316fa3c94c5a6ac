import StreamWatch.Browser.Rehearsal
import StreamWatch.CommandLine.Command
import StreamWatch.Json.Reader

/-! The command line. Its words are the file of a rehearsal, the name of a command and the words for
that command. -/
namespace StreamWatch.Main

open Browser (World)
open CommandLine (Command Refusal)

def variableNames : List String := [
  "VDO_STREAM_ID", "VDO_NO_PASSWORD", "VDO_PASSWORD", "VDO_ROOM_ID", "VDO_BITRATE",
  "VDO_VIEW_INCLUDE_ROOM", "VDO_VIEW_INCLUDE_SCENE", "VDO_CLEANOUTPUT", "VDO_HOSTNAME",
  "VDO_PUSH_URL", "VDO_VIEW_URL", "VDO_POLL_TIMEOUT_MS", "VDO_POLL_INTERVALS_MS",
  "VDO_MIN_INBOUND_BYTES", "VDO_MIN_INBOUND_AUDIO_BYTES", "VDO_SAMPLE_GAP_MS",
  "VDO_REQUIRE_AUDIO", "VDO_DEBUG", "HEADLESS", "PER_URL_WAIT_MS", "SAMPLE_GAP_MS",
  "PUBLISH_DURATION_MS", "PUBLISH_STARTUP_WAIT_MS", "VIEW_PROBE_WAIT_MS"]

def environment : IO Environment := do
  let values ← variableNames.mapM fun name => do
    pure ((← IO.getEnv name).map fun value => (name, some value))
  pure (values.filterMap id)

def channelName : Console.Channel → String
  | .config => "config"
  | .probe => "probe"
  | .liveness => "liveness"
  | .session => "session"
  | .report => "report"
  | .view => "view"
  | .matrix => "matrix"
  | .publish => "publish"
  | .crossBrowser => "cross-browser"
  | .scenario => "scenario"

def save (tree : Report.FileTree) : IO Unit := do
  for place in tree.directories do
    IO.FS.createDirAll place
  for (place, text) in tree.files do
    IO.FS.writeFile place text

def display (w : World Float) : IO Unit := do
  IO.print w.printed
  for line in w.log do
    let level := line.level.name
    let channel := channelName line.channel
    IO.eprintln s!"{level} {channel}: {line.message}"

def perform (c : Command) (env : Environment) (w : World Float) (words : List String) :
    IO UInt32 := do
  let (outcome, w) := (c.run env words).run.run w
  display w
  save w.files
  match outcome with
  | .ok (.ok code) => pure code.toUInt32
  | .ok (.error (.misuse m)) =>
    IO.eprintln s!"error: {m.message}"
    pure 2
  | .ok (.error .usage) =>
    for flag in c.grammar.flags do
      IO.println flag.title
    pure 0
  | .error h =>
    IO.eprintln h.message
    pure 1

end StreamWatch.Main

open StreamWatch in
def main (args : List String) : IO UInt32 := do
  match args with
  | file :: name :: words =>
    match Json.Value.parse? (← IO.FS.readFile file), CommandLine.Command.ofName? name with
    | some v, some c =>
      match Browser.Rehearsal.world v with
      | .ok w => Main.perform c (← Main.environment) w words
      | .error f =>
        IO.eprintln f.message
        pure 2
    | _, _ =>
      IO.eprintln "no such rehearsal or command"
      pure 2
  | _ =>
    IO.eprintln "expected a rehearsal, a command and its words"
    pure 2
