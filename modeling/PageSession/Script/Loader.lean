import PageSession.Log.Line
import PageSession.Script.Resolver
import PageSession.Text.Blank

/-!
# Loading the resources of a page

Styles are applied at once and only once.  A script starts when every name it
requires has been provided.  While the script of some URI is loading, the
loader holds one lock on the stream of notifications.

The loader does not act itself: what it wants done on the page is appended to
its journal, in order.  The outcome of inline scripts comes from a host.
-/

namespace PageSession

/-- What a page does with inline scripts: the outcome of running a source, given
how many were run before. -/
structure ScriptHost where
  execute : Nat → String → Except ScriptError Unit

namespace Loader

/-- What a log line of the loader is about. -/
inductive Incident where
  /-- An announced script is not accepted. -/
  | skipped (error : ScriptError)
  /-- An inline script failed. -/
  | executionFailed (script : String) (error : ScriptError)
  /-- The script of a URI could not be loaded. -/
  | loadFailed (uri : String) (error : ScriptError)
  /-- Nothing is loading, and scripts still wait for these names. -/
  | stalled (unmet : Names)
deriving DecidableEq, Repr

/-- One thing that the loader does, or wants done. -/
inductive Report where
  | stylesheet (uri : String)
  | style (css : String)
  | execute (source : String)
  | lock
  | unlock
  /-- Start to load the script of a URI. -/
  | fetch (uri : String)
  | incident (incident : Incident)
deriving DecidableEq, Repr

/-- The log line of an incident. -/
def Incident.line : Incident → LogLine
  | .skipped error =>
      .warn "portal_resources::loader" "skipping script descriptor"
        [("error", .bare error.message)]
  | .executionFailed script error =>
      .error "portal_resources::loader" "inline script failed, its capabilities stay unprovided"
        [("script", .bare script), ("error", .bare error.message),
          ("error_kind", .quoted error.kind)]
  | .loadFailed uri error =>
      .error "portal_resources::loader" "script load failed, its capabilities stay unprovided"
        [("uri", .bare uri), ("error", .bare error.message), ("error_kind", .quoted error.kind)]
  | .stalled unmet =>
      .warn "portal_resources::loader" "scripts stalled on capabilities nobody provides"
        [("unmet", .bare (Text.shownSet unmet))]

end Loader

/-- A URI whose script is loading, with the names it will provide. -/
structure LoadingScript where
  uri : String
  provides : Names
deriving DecidableEq, Repr

/-- The loader of one page. -/
structure Loader where
  resolver : Resolver := {}
  loading : List LoadingScript := []
  loaded : List String := []
  stylesheets : List String := []
  styles : List String := []
  /-- Whether the lock is held. -/
  holding : Bool := false
  /-- How many inline scripts were run. -/
  executions : Nat := 0
  journal : List Loader.Report := []
deriving DecidableEq, Repr

namespace Loader

/-- Append to the journal. -/
def report (loader : Loader) (entry : Report) : Loader :=
  { loader with journal := loader.journal ++ [entry] }

/-- Apply a stylesheet, unless it was applied before. -/
def applyStylesheet (loader : Loader) (uri : String) : Loader :=
  if loader.stylesheets.contains uri then loader
  else { loader with stylesheets := loader.stylesheets ++ [uri] }.report (.stylesheet uri)

/-- Apply an inline style, unless it is blank or was applied before. -/
def applyStyle (loader : Loader) (css : String) : Loader :=
  if Text.blank css || loader.styles.contains css then loader
  else { loader with styles := loader.styles ++ [css] }.report (.style css)

/-- Apply the styles of an announcement. -/
def applyStyles (loader : Loader) (resources : PageResources) : Loader :=
  let loader := resources.stylesheets.foldl applyStylesheet loader
  match resources.style with
  | some css => loader.applyStyle css
  | none => loader

/-- Take announced scripts in; those that may start at once are handed back. -/
def enroll (loader : Loader) : List ScriptResource → List ScriptDescriptor × Loader
  | [] => ([], loader)
  | resource :: rest =>
      match ScriptDescriptor.ofResource resource with
      | .error error => (loader.report (.incident (.skipped error))).enroll rest
      | .ok descriptor =>
          let (start, resolver) := loader.resolver.enroll descriptor
          let (ready, loader) := { loader with resolver }.enroll rest
          (start.toList ++ ready, loader)

/-- Provide names; the scripts released by it are handed back. -/
def provide (loader : Loader) (names : List String) : List ScriptDescriptor × Loader :=
  let (released, resolver) := loader.resolver.provide names
  (released, { loader with resolver })

/-- Take the lock, unless it is held. -/
def hold (loader : Loader) : Loader :=
  if loader.holding then loader
  else { loader with holding := true }.report .lock

/-- Start the script of a URI.  A URI that is loading only takes on more names;
one that was loaded provides them at once; any other is fetched. -/
def startUri (loader : Loader) (uri : String) (provides : Names) :
    List ScriptDescriptor × Loader :=
  if loader.loading.any (·.uri == uri) then
    let loading := loader.loading.map fun script =>
      if script.uri = uri then { script with provides := Names.union script.provides provides }
      else script
    ([], { loader with loading })
  else if loader.loaded.contains uri then loader.provide provides
  else
    let loader := { loader with loading := loader.loading ++ [LoadingScript.mk uri provides] }
    ([], loader.hold.report (.fetch uri))

/-- Run an inline script; what it provides is provided if it succeeds. -/
def startInline (host : ScriptHost) (loader : Loader) (script : ScriptDescriptor)
    (source : String) : List ScriptDescriptor × Loader :=
  let outcome := host.execute loader.executions source
  let loader := { loader with executions := loader.executions + 1 }.report (.execute source)
  match outcome with
  | .ok () => loader.provide script.provides
  | .error error => ([], loader.report (.incident (.executionFailed script.display error)))

/-- Start one script; the scripts released by it are handed back. -/
def start (host : ScriptHost) (loader : Loader) (script : ScriptDescriptor) :
    List ScriptDescriptor × Loader :=
  match script.source with
  | .uri uri => loader.startUri uri script.provides
  | .inline source => loader.startInline host script source

@[simp] theorem resolver_report (loader : Loader) (entry : Report) :
    (loader.report entry).resolver = loader.resolver := rfl

@[simp] theorem resolver_hold (loader : Loader) : loader.hold.resolver = loader.resolver := by
  unfold hold
  split <;> rfl

theorem length_provide (loader : Loader) (names : List String) :
    (loader.provide names).1.length + (loader.provide names).2.resolver.pending.length
      = loader.resolver.pending.length :=
  Resolver.length_provide loader.resolver names

/-- Starting a script only moves scripts from the waiting list to the released
ones. -/
theorem length_start (host : ScriptHost) (loader : Loader) (script : ScriptDescriptor) :
    (loader.start host script).1.length + (loader.start host script).2.resolver.pending.length
      = loader.resolver.pending.length := by
  unfold start
  split
  · unfold startUri
    split
    · simp
    · split
      · exact length_provide loader _
      · simp
  · unfold startInline
    simp only
    split
    · exact length_provide _ _
    · simp

/-- Work through the scripts that may start, and those that they release, in
turn. -/
def run (host : ScriptHost) (loader : Loader) : List ScriptDescriptor → Loader
  | [] => loader
  | script :: rest =>
      let started := loader.start host script
      run host started.2 (rest ++ started.1)
termination_by ready => ready.length + loader.resolver.pending.length
decreasing_by
  have moved := length_start host loader script
  simp only [List.length_append, List.length_cons]
  omega

/-- Once nothing is loading, report the scripts that cannot go on and give the
lock back. -/
def settle (loader : Loader) : Loader :=
  if !loader.loading.isEmpty then loader
  else
    let unmet := loader.resolver.unmet
    let reported :=
      if unmet.isEmpty then loader else loader.report (.incident (.stalled unmet))
    if loader.holding then { reported with holding := false }.report .unlock
    else reported

/-- Take in what one announcement asks for. -/
def submit (host : ScriptHost) (loader : Loader) (resources : PageResources) : Loader :=
  let (ready, loader) := (loader.applyStyles resources).enroll resources.scripts
  (loader.run host ready).settle

/-- The names that a URI was to provide. -/
def promised (loader : Loader) (uri : String) : Names :=
  match loader.loading.find? (·.uri == uri) with
  | some script => script.provides
  | none => []

/-- The load of a URI has come to its end. -/
def complete (host : ScriptHost) (loader : Loader) (uri : String)
    (outcome : Except ScriptError Unit) : Loader :=
  let promised := loader.promised uri
  let loader := { loader with loading := loader.loading.filter (·.uri != uri) }
  match outcome with
  | .ok () =>
      let loader :=
        if loader.loaded.contains uri then loader
        else { loader with loaded := loader.loaded ++ [uri] }
      let (released, loader) := loader.provide promised
      (loader.run host released).settle
  | .error error => (loader.report (.incident (.loadFailed uri error))).settle

end Loader

end PageSession
