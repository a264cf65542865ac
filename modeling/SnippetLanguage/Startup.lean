import SnippetLanguage.Log
import SnippetLanguage.Rule.Default
import SnippetLanguage.Settings

/-!
# Start and stop

What the program records when it starts and when it stops, and which of it the configured level lets through.
-/

namespace SnippetLanguage.Startup

/-- The version of the program. -/
def version : String := "1.0.0"

/-- The level from which on events are shown; a word that is no level means the usual one. -/
def threshold (settings : Settings) : Log.Level := (Log.Level.ofName? settings.logLevel).getD .info

/-- What is recorded from the start to the stop of a program that does nothing in between. -/
def events (settings : Settings) : List Log.Event := [
  .starting settings.appName version,
  .rulesLoaded Table.default.names,
  .labelStyleSet settings.labelStyle,
  .ready settings.backendHost settings.backendPort,
  .stopping settings.appName]

/-- The lines that are shown. -/
def lines (settings : Settings) : List WideText :=
  ((events settings).filter fun e => (threshold settings).weight ≤ e.level.weight).map Log.Event.line

end SnippetLanguage.Startup
