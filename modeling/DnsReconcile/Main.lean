/-
# The program

Reads what it is told from the environment and the settings from a file, and
prints the report. No connection to a network is part of the program, so an
instance that needs one gets no replies.
-/

import DnsReconcile.CommandLine.Run

namespace DnsReconcile.CommandLine

/-- A network that nobody answers on. -/
def silence (_ : Http.Message) (state : Unit) : Http.Reply × Unit :=
  (.failure "no network", state)

/-- The environment of this run. -/
def environment : IO Environment := do
  return {
    path := ← IO.getEnv "ZONESYNC_CONFIG"
    mode := ← IO.getEnv "ZONESYNC_MODE"
    logLevel := ← IO.getEnv "ZONESYNC_LOG_LEVEL"
    cloudflareToken := ← IO.getEnv "ZONESYNC_CLOUDFLARE_API_TOKEN" }

/-- The content of a file that can be read. -/
def contentOf (path : String) : IO (Option String) := do
  try return some (← IO.FS.readFile path)
  catch _ => return none

/-- Print a report, and those lines of its log that are important enough. -/
def present (level : LogLevel) (report : Report) : IO UInt32 := do
  for line in report.log do
    if level.rank ≤ line.level.rank then IO.eprintln line.text
  for line in report.lines do
    IO.println line
  return UInt32.ofNat report.exit.toNat

end DnsReconcile.CommandLine

open DnsReconcile.CommandLine in
/-- Run the program. -/
def main : IO UInt32 := do
  match (← environment).read with
  | .error fault => do
      IO.eprintln (complaint fault)
      return UInt32.ofNat ExitCode.settingsFault.toNat
  | .ok options => do
      let content ← contentOf options.path
      present options.logLevel (run options content silence ()).1
