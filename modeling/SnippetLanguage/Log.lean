import SnippetLanguage.Detection
import SnippetLanguage.Failure
import SnippetLanguage.Json.Writer

/-!
# The log

What the program records, as events with the values they mention. The level, the name of the logger and the wording of
an event are functions of it. The time that an answer has taken is recorded with it, but is left out here, as it is not
determined by what happens.
-/

namespace SnippetLanguage.Log

/-- How serious an event is. -/
inductive Level where
  | notSet
  | debug
  | info
  | warning
  | error
  | critical
  deriving Repr, DecidableEq

namespace Level

/-- The word for a level. -/
def name : Level → String
  | notSet => "NOTSET"
  | debug => "DEBUG"
  | info => "INFO"
  | warning => "WARNING"
  | error => "ERROR"
  | critical => "CRITICAL"

/-- The levels by their weight. -/
def weight : Level → Nat
  | notSet => 0
  | debug => 10
  | info => 20
  | warning => 30
  | error => 40
  | critical => 50

/-- The level that a word stands for; some have two. -/
def ofName? (s : String) : Option Level :=
  [("NOTSET", notSet), ("DEBUG", debug), ("INFO", info), ("WARN", warning), ("WARNING", warning), ("ERROR", error),
    ("CRITICAL", critical), ("FATAL", critical)].lookup s

/-- The level at which an answer with a status is recorded. -/
def ofStatus (status : Int) : Level :=
  if 500 ≤ status then error else if 400 ≤ status then warning else info

end Level

/-- Something that the program records. -/
inductive Event where
  /-- a text was given a language -/
  | detected (language : String) (method : DetectionMethod) (length : Nat)
  /-- a request broke a rule -/
  | refused (requestId : String) (message : WideText)
  /-- the program failed in a way it foresees -/
  | failed (requestId : String) (message : WideText) (details : Details)
  /-- the program failed in a way it does not foresee -/
  | crashed (requestId : String) (cause : WideText)
  /-- a request was answered -/
  | answered (method path : String) (status : Nat) (requestId client : String)
  /-- the health check found no working classifier -/
  | probeFailed
  | starting (app version : String)
  | rulesLoaded (names : List String)
  | labelStyleSet (style : String)
  | ready (host : String) (port : Int)
  | stopping (app : String)

namespace Event

/-- How serious the event is. -/
def level : Event → Level
  | detected .. => .debug
  | refused .. => .warning
  | failed .. => .error
  | crashed .. => .error
  | answered _ _ status _ _ => .ofStatus status
  | probeFailed => .warning
  | _ => .info

/-- The name of the logger that records the event. -/
def logger : Event → String
  | detected .. => "codeboard.services.language_service"
  | answered .. => "codeboard.access"
  | probeFailed => "codeboard.routes.health"
  | _ => "codeboard.main"

/-- The wording of the event. -/
def message : Event → WideText
  | detected language method length =>
    ("Detected language=" ++ language ++ " method=" ++ method.name ++ " chars=" ++ toString length : String)
  | refused id message => ("[" ++ id ++ "] Validation error: " : String) ++ message
  | failed id message details => ("[" ++ id ++ "] Application error: " : String) ++ message ++
      (" | Context: " ++ (Json.object details).display : String)
  | crashed id cause => ("[" ++ id ++ "] Unexpected error: " : String) ++ cause
  | answered method path status id client =>
    (method ++ " " ++ path ++ " " ++ toString status ++ " [" ++ id ++ "] from " ++ client : String)
  | probeFailed => "Health check: classifier probe failed"
  | starting app version => (app ++ " " ++ version ++ " starting up" : String)
  | rulesLoaded names =>
    ("Loaded " ++ toString names.length ++ " language rules: " ++ String.intercalate ", " names : String)
  | labelStyleSet style => ("Default label style: " ++ style : String)
  | ready host port => ("Server ready at http://" ++ host ++ ":" ++ toString port : String)
  | stopping app => (app ++ " shutting down" : String)

/-- Whether the event is recorded together with the trace of the failure. -/
def hasTrace : Event → Bool
  | crashed .. => true
  | _ => false

/-- The event as a line of the log, without its time. -/
def line (e : Event) : WideText := ("[" ++ e.level.name ++ "] " ++ e.logger ++ ": " : String) ++ e.message

/-- The request id that the event mentions. -/
def requestId? : Event → Option String
  | refused id _ => some id
  | failed id _ _ => some id
  | crashed id _ => some id
  | answered _ _ _ id _ => some id
  | _ => none

end Event

end SnippetLanguage.Log
