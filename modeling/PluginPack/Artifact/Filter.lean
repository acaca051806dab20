import PluginPack.Artifact.Facade

/-!
Narrowing a list of artifacts.

A criterion is a test on one artifact, built from membership of its scope, type,
group or artifact id in a list, from whether it is optional, and from `all`,
`any` and `not` over other criteria. A refinement is one step that keeps or drops
artifacts, or reorders them by id. Steps that ask whether an artifact is a plugin
may have to open its archive, so a refinement runs in the packaging step monad:
it fails as a whole, leaving the list to its caller unchanged, or it warns and
counts an unreadable archive as a library when asked for best effort.
-/

namespace PluginPack.Artifact

open PluginPack.Files

inductive Criterion where
  | scopeIn (scopes : List (Option String))
  | typeIn (types : List String)
  | groupIdIn (groupIds : List String)
  | artifactIdIn (artifactIds : List String)
  | isOptional
  | allOf (criteria : List Criterion)
  | anyOf (criteria : List Criterion)
  | negate (criterion : Criterion)
  deriving Repr, Inhabited

mutual

def Criterion.holds : Criterion → Facade → Bool
  | .scopeIn scopes, f => scopes.contains f.scope
  | .typeIn types, f => types.contains f.type
  | .groupIdIn groupIds, f => groupIds.contains f.groupId
  | .artifactIdIn artifactIds, f => artifactIds.contains f.artifactId
  | .isOptional, f => f.optional
  | .allOf criteria, f => Criterion.holdsAll criteria f
  | .anyOf criteria, f => Criterion.holdsAny criteria f
  | .negate c, f => !c.holds f

def Criterion.holdsAll : List Criterion → Facade → Bool
  | [], _ => true
  | c :: rest, f => c.holds f && Criterion.holdsAll rest f

def Criterion.holdsAny : List Criterion → Facade → Bool
  | [], _ => false
  | c :: rest, f => c.holds f || Criterion.holdsAny rest f

end

inductive Refinement where
  | scopeIs (scopes : List (Option String))
  | scopeIsNot (scopes : List (Option String))
  | typeIs (types : List String)
  | typeIsNot (types : List String)
  | groupIdIs (groupIds : List String)
  | groupIdIsNot (groupIds : List String)
  | artifactIdIs (artifactIds : List String)
  | artifactIdIsNot (artifactIds : List String)
  | optionalIs (optional : Bool)
  | plugins (bestEffort : Bool)
  | libraries
  | sortedById
  | retainAll (criterion : Criterion)
  | removeAll (criterion : Criterion)
  deriving Repr, Inhabited

def keepPlugins (store : Store) : List Facade → Outcome (List Facade)
  | [] => .ok []
  | f :: rest => do
    let keep ← f.isPlugin store
    let kept ← keepPlugins store rest
    pure (if keep then f :: kept else kept)

def keepPluginsBestEffort : List Facade → Step (List Facade)
  | [] => pure []
  | f :: rest => do
    let keep ← f.isPluginBestEffort
    let kept ← keepPluginsBestEffort rest
    pure (if keep then f :: kept else kept)

def dropPlugins (store : Store) : List Facade → Outcome (List Facade)
  | [] => .ok []
  | f :: rest => do
    let plugin ← f.isPlugin store
    let kept ← dropPlugins store rest
    pure (if plugin then kept else f :: kept)

def sortById (fs : List Facade) : List Facade :=
  fs.mergeSort fun a b => decide (a.id ≤ b.id)

def Refinement.apply (r : Refinement) (fs : List Facade) : Step (List Facade) := do
  match r with
  | .scopeIs scopes => pure (fs.filter (Criterion.scopeIn scopes).holds)
  | .scopeIsNot scopes => pure (fs.filter fun f => !(Criterion.scopeIn scopes).holds f)
  | .typeIs types => pure (fs.filter (Criterion.typeIn types).holds)
  | .typeIsNot types => pure (fs.filter fun f => !(Criterion.typeIn types).holds f)
  | .groupIdIs gs => pure (fs.filter (Criterion.groupIdIn gs).holds)
  | .groupIdIsNot gs => pure (fs.filter fun f => !(Criterion.groupIdIn gs).holds f)
  | .artifactIdIs as => pure (fs.filter (Criterion.artifactIdIn as).holds)
  | .artifactIdIsNot as => pure (fs.filter fun f => !(Criterion.artifactIdIn as).holds f)
  | .optionalIs b => pure (fs.filter fun f => f.optional == b)
  | .plugins true => keepPluginsBestEffort fs
  | .plugins false => Step.ofOutcome (keepPlugins (← currentStore) fs)
  | .libraries => Step.ofOutcome (dropPlugins (← currentStore) fs)
  | .sortedById => pure (sortById fs)
  | .retainAll c => pure (fs.filter c.holds)
  | .removeAll c => pure (fs.filter fun f => !c.holds f)

def ids (fs : List Facade) : List String := fs.map Facade.id

end PluginPack.Artifact
