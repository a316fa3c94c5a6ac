/-! The log of a check. A line has a level and the part of the check it comes from; lines below the
threshold are dropped. The threshold is set once, by the first that sets it. -/
namespace StreamWatch.Console

inductive Level
  | debug
  | info
  | warning
  | error
  deriving DecidableEq

def Level.rank : Level → Nat
  | debug => 10
  | info => 20
  | warning => 30
  | error => 40

def Level.name : Level → String
  | debug => "DEBUG"
  | info => "INFO"
  | warning => "WARNING"
  | error => "ERROR"

inductive Channel
  | config
  | probe
  | liveness
  | session
  | report
  | view
  | matrix
  | publish
  | crossBrowser
  | scenario
  deriving DecidableEq

structure LogLine where
  level : Level
  channel : Channel
  message : String
  deriving DecidableEq

structure Logging where
  checks : Level := .warning
  eventLoop : Option Level := none
  configured : Bool := false

def Logging.configure (l : Logging) (debug : Bool) : Logging where
  checks := if l.configured then l.checks else if debug then .debug else .info
  eventLoop := some .warning
  configured := true

def lineLayout : String := "%(asctime)s %(levelname)s %(name)s: %(message)s"

def Logging.shows (l : Logging) (level : Level) : Bool := l.checks.rank ≤ level.rank

end StreamWatch.Console
