import PageSession.Script.Descriptor

/-!
# Which scripts may start

The resolver knows the names provided so far and holds back the scripts that
require others.  The provided set only grows, and scripts that wait keep their
order of admission.  Providing names moves scripts from the waiting list to the
released ones and loses none.
-/

namespace PageSession

/-- A script that waits, with the names it still lacks. -/
structure PendingScript where
  descriptor : ScriptDescriptor
  unmet : Names
deriving DecidableEq, Repr

/-- The names provided and the scripts that wait. -/
structure Resolver where
  provided : Names := []
  pending : List PendingScript := []
deriving DecidableEq, Repr

namespace Resolver

/-- Whether a name has been provided. -/
def isProvided (resolver : Resolver) (name : String) : Bool :=
  resolver.provided.contains name

/-- Names not provided so far. -/
def lacking (resolver : Resolver) (names : Names) : Names :=
  names.filter fun name => !resolver.isProvided name

/-- Take a script in: it may start at once, or it waits. -/
def enroll (resolver : Resolver) (descriptor : ScriptDescriptor) :
    Option ScriptDescriptor × Resolver :=
  let unmet := resolver.lacking descriptor.requires
  if unmet.isEmpty then (some descriptor, resolver)
  else (none, { resolver with pending := resolver.pending ++ [{ descriptor, unmet }] })

/-- A waiting script, less the names that are provided now. -/
def reduce (resolver : Resolver) (script : PendingScript) : PendingScript :=
  { script with unmet := resolver.lacking script.unmet }

/-- Provide names, and release the scripts that lack nothing any more, in
order.  If no name is new, nothing is released. -/
def provide (resolver : Resolver) (names : List String) : List ScriptDescriptor × Resolver :=
  if names.all resolver.isProvided then ([], resolver)
  else
    let grown := { resolver with provided := Names.union resolver.provided names }
    let reduced := grown.pending.map grown.reduce
    ((reduced.filter (·.unmet.isEmpty)).map (·.descriptor),
      { grown with pending := reduced.filter (!·.unmet.isEmpty) })

/-- Every name that some waiting script lacks. -/
def unmet (resolver : Resolver) : Names :=
  Names.ofList (resolver.pending.flatMap (·.unmet))

theorem length_provide (resolver : Resolver) (names : List String) :
    (resolver.provide names).1.length + (resolver.provide names).2.pending.length
      = resolver.pending.length := by
  unfold provide
  split
  · simp
  · simp only [List.length_map]
    generalize grown : { resolver with provided := Names.union resolver.provided names } = next
    have same : next.pending = resolver.pending := by subst grown; rfl
    rw [← same]
    clear same grown
    induction next.pending with
    | nil => rfl
    | cons head rest hypothesis =>
        simp only [List.map_cons, List.filter_cons, List.length_cons]
        by_cases done : (next.reduce head).unmet.isEmpty <;> simp [done] <;> omega

end Resolver

end PageSession
