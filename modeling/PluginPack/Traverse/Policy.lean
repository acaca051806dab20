/-!
What a walk over the dependency tree looks for, and the verdicts it gives.

In `libraries` mode a walk stops at plugins and selects libraries, as packaging a
plugin does; in `plugins` mode it follows plugins only and selects them, as
assembling a set of plugins does. The host core provides some artifacts already:
by default any artifact reached through an id that contains `:jenkins-core:` or
`:hudson-core:`, or, when a core `group:artifact` is configured, any artifact
reached through an id that starts with it.
-/

namespace PluginPack.Traverse

inductive Decision where
  | bundle
  | plugin
  | throughPlugin
  | coveredByHost
  | duplicate
  | scope
  | optional
  deriving DecidableEq, Repr, Inhabited

def Decision.name : Decision → String
  | .bundle => "bundle"
  | .plugin => "plugin"
  | .throughPlugin => "through-plugin"
  | .coveredByHost => "covered-by-host"
  | .duplicate => "duplicate"
  | .scope => "scope"
  | .optional => "optional"

inductive Mode where
  | libraries
  | plugins
  deriving DecidableEq, Repr, Inhabited

inductive HostCore where
  | markers (texts : List String)
  | coordinate (coreId : String)
  deriving DecidableEq, Repr, Inhabited

def defaultMarkers : List String := [":jenkins-core:", ":hudson-core:"]

def HostCore.ofCoreId (coreId : Option String) : HostCore :=
  match coreId with
  | some id => if id.isEmpty then .markers defaultMarkers else .coordinate id
  | none => .markers defaultMarkers

def occursIn (needle hay : String) : Bool :=
  needle.isEmpty || (hay.splitOn needle).length > 1

def HostCore.covers (h : HostCore) (trail : List String) : Bool :=
  match h with
  | .markers ms => trail.any fun entry => ms.any fun m => occursIn m entry
  | .coordinate id => trail.any fun entry => entry.startsWith (id ++ ":")

structure Policy where
  mode : Mode := .libraries
  scopes : List String := ["compile", "runtime"]
  includeOptional : Bool := false
  hostCore : HostCore := .markers defaultMarkers
  bestEffort : Bool := false
  deriving Repr, Inhabited

def throughPlugin (trail : List String) (pluginIds : List String) : Bool :=
  ((trail.drop 1).dropLast).any pluginIds.contains

end PluginPack.Traverse
