import SmartAccount.Cli.EnvironmentFile
import SmartAccount.Cli.Outcome
import SmartAccount.Connection
import Std.Async.Signal
import Std.Async.System
/-!
# The command line

Reads the command line, carries out what it asks for and prints what comes of it. A command
that fails ends with its error and exit code 1; words that are no command line end with exit
code 2.
-/

namespace SmartAccount.Cli

open Std.Async Connection

/-- Of two things that a watch waits for the first one counts; before there is one, it waits to
be stopped. -/
instance : Inhabited (Watch.Action ProviderError) := ⟨.tellStop⟩

/-- The variables of the environment and of the file `.env` in the current directory. -/
def environment : IO EnvironmentFile.Lookup := do
  let known ← System.getEnv
  let text ← try IO.FS.readFile ".env" catch _ => pure ""
  return EnvironmentFile.extend known.get? text

/-- The machine, as far as an invocation looks at it. -/
def machineFor (i : Invocation) : Async Machine := do
  let text ← match i.command.file? with
    | none => pure none
    | some file => try some <$> (IO.FS.readFile file : IO String) catch _ => pure none
  let free ← match i.settings.metricsPort with
    | none => pure false
    | some port =>
      if isNumericHost i.settings.metricsHost then isFree i.settings.metricsHost port
      else pure false
  return ⟨fun _ => text, fun _ _ => free⟩

/-- What a watch meets next: the answer that it waits for or the end of its wait, unless it is
interrupted before. -/
def nextAction (ask : Request → Async Answer) (settings : WatchSettings) (subject : Subject)
    (interrupted : AsyncTask Int) (w : Watch ProviderError) :
    Async (Watch.Action ProviderError) := do
  if w.stopping then return .stop
  let wanted : Async (Watch.Action ProviderError) := match w.phase with
    | .readingHead _ => do
      return .headAnswer (← converse ask Chain.headNumber.run) (← drawNumber)
    | .readingLogs q => do
      let answer ← converse ask (Chain.logs (q.filter settings subject)).run
      return .logsAnswer answer (← drawNumber)
    | .sending _ _ _ => return .send
    | phase => do
      pass ((phase.span? settings).getD 0)
      return .elapse
  Async.race wanted do
    let _ ← await interrupted
    return .tellStop

/-- Follows a watch to its end and prints the events as they come, so that nothing is left to be
printed. -/
partial def follow (ask : Request → Async Answer) (settings : WatchSettings) (subject : Subject)
    (interrupted : AsyncTask Int) (w : Watch ProviderError) :
    Async (Except String (List String)) := do
  match w.channel.buffer, w.phase with
  | event :: _, _ => do
    IO.println event.display
    proceed .receive
  | [], .ended (.failed e) => return .error (errorText e)
  | [], .ended (.brokenDown cause) => return .error cause.message
  | [], .ended .stopped => return .ok []
  | [], _ => proceed (← nextAction ask settings subject interrupted w)
where
  proceed (action : Watch.Action ProviderError) : Async (Except String (List String)) :=
    match w.step? settings subject action with
    | some next => follow ask settings subject interrupted next
    | none => return .ok []

/-- Watches events until the watch fails or is interrupted. -/
def watch (ask : Request → Async Answer) (settings : WatchSettings) (subject : Subject)
    (first : Option BlockNumber) : Async (Except String (List String)) := do
  let start ← match first with
    | some block => pure (.ok block)
    | none => (·.map Watch.blockAfter) <$> converse ask Chain.headNumber.run
  match start with
  | .error e => return .error (errorText e)
  | .ok block => do
    let interrupted ← (← Signal.Waiter.mk .sigint false).wait
    follow ask settings subject interrupted (Watch.start block watchCapacity)

/-- Carries out an invocation. -/
def Invocation.carryOut (i : Invocation) : Async Outcome := do
  if let some file := i.settings.logFile then
    try discard (IO.FS.Handle.mk file .append) catch _ => pure ()
  let ask := ask (Url.endpoint? i.settings.nodeUrl) i.settings.timeout
  match i.plan (← machineFor i) with
  | .error e => return .ofResult (.error e)
  | .ok (.print task) => converse ask task.dialogue
  | .ok (.watch settings subject first) => .ofResult <$> watch ask settings subject first

/-- Reads the command line and carries it out. -/
def run (words : List String) : IO UInt32 := do
  let outcome ← match Invocation.parse (← environment) words with
    | .error stop => pure (Outcome.ofStop stop)
    | .ok invocation => invocation.carryOut.block
  outcome.output.forM fun line => IO.println line
  outcome.error.forM fun line => IO.eprintln line
  return outcome.exitCode.toUInt32

end SmartAccount.Cli

/-- The exit code is 0 for success, 1 for an error and 2 for words that are no command line. -/
def main (words : List String) : IO UInt32 := SmartAccount.Cli.run words
