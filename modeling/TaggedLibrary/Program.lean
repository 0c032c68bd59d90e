import TaggedLibrary.Settings
import TaggedLibrary.Verification
import TaggedLibrary.Log.Filter
/-!
The program: it reads its settings, writes the library, and checks it if it is asked to.
-/

namespace TaggedLibrary

/-- Why a run ends early. -/
inductive Failure where
  | settings (error : SettingsError)
  | invalid (why : InvalidSettings)
  | library (error : LibraryError)
deriving Repr, DecidableEq

/-- The failure as it is shown at the end. -/
def Failure.text : Failure → String
  | .settings e => e.message
  | .invalid why => Quoted.text why.message
  | .library e => e.detail

namespace Program

/-- Settings that can be worked with. -/
def loadSettings (env : Environment) (t : FileTree) : Except Failure Settings :=
  match Settings.load env t with
  | .error e => .error (.settings e)
  | .ok s =>
    match s.invalid? with
    | some why => .error (.invalid why)
    | none => .ok s

/-- Writes the library and checks it if asked. -/
def work (s : Settings) : Run Summary := do
  Run.report (.settingsLoaded s.paths.source s.paths.destination)
  let summary ← Generation.generate s.paths Catalog.builtIn TagWriter.id3v2
  if s.verify then
    let checked ← Verification.verify summary.destination Catalog.builtIn
    Run.report (.matched checked)
  return summary

/-- What a run leaves: its result, and the events that it reported. -/
structure Outcome where
  result : Except Failure Summary
  events : List Event

/-- A run in an environment and on files: what it leaves, and the files after it. -/
def run (env : Environment) (t : FileTree) : Outcome × FileTree :=
  match loadSettings env t with
  | .error e => ({ result := .error e, events := [] }, t)
  | .ok s =>
    match (work s).run { files := t } with
    | (.ok summary, session) => ({ result := .ok summary, events := session.events }, session.files)
    | (.error e, session) =>
      ({ result := .error (.library e), events := session.events }, session.files)

def Outcome.exitCode (o : Outcome) : Nat :=
  match o.result with
  | .ok _ => 0
  | .error _ => 1

/-- What is written to standard output. -/
def Outcome.output (o : Outcome) : String :=
  match o.result with
  | .ok summary => summary.line ++ "\n"
  | .error _ => ""

/-- What is written to standard error, as a list of messages: the events that are shown, and the
failure. -/
def Outcome.messages (env : Environment) (o : Outcome) : List String :=
  o.events.filterMap (LogFilter.ofSetting (env.value? "RUST_LOG")).line? ++
    match o.result with
    | .ok _ => []
    | .error e => ["Error: " ++ e.text]

end Program

end TaggedLibrary
