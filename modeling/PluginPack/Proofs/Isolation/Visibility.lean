import PluginPack.Isolation.Source

/-!
What a locally run component sees through its loader chain.

The chain puts a servlet-API loader (or, with the container exposed, a container-and-servlet-API
loader) over a masking loader over the host, with the container as secondary source. A class
comes from the host unless the build tool's prefixes hide it, and otherwise from the container
when the servlet API (or the exposed container) covers it. Listings of resources come from the
host, less the build tool's resources and the service files of its classes; with the container
exposed they come only from the container, and only for `jndi.properties`.

A single resource lookup consults neither the exported resources nor the secondary source. It
answers the head of the listing through the masking loader and through the chain with the
container hidden, and through the exposed chain the head of the masking loader's listing,
which is not that chain's own.
-/

namespace PluginPack.Isolation

open PluginPack.Files

/-- A class lookup answered from a table: the location found, or `ClassNotFound`. -/
def answerClass (name : String) : Option String → Except LookupError String
  | some location => .ok location
  | none => .error (.classNotFound name)

/-- The resources the masking loader hides: those under one of its resource prefixes, and the
service files of the classes it hides. -/
def HiddenResource (name : String) : Prop :=
  startsWithAny maskingPolicy.maskedResourcePrefixes name = true ∨
    ∃ cls, name = servicesDir ++ cls ∧ startsWithAny maskingPolicy.maskedClassPrefixes cls = true

def chainPolicy (exposeContainer : Bool) : Policy :=
  if exposeContainer then containerAndServletPolicy else servletApiOnlyPolicy

theorem runChain_eq (host container : Source) (exposeContainer : Bool) :
    runChain host container exposeContainer =
      .isolating (chainPolicy exposeContainer) (.isolating maskingPolicy host none) (some container) :=
  rfl

theorem startsWith_servicesDir {name : String} :
    name.startsWith servicesDir = true ↔ ∃ cls, name = servicesDir ++ cls := by
  rw [String.startsWith_string_iff]
  constructor
  · rintro ⟨rest, spelled⟩
    exact ⟨String.ofList rest, String.toList_inj.mp (by simp [spelled])⟩
  · rintro ⟨cls, rfl⟩
    exact ⟨cls.toList, by simp⟩

theorem drop_servicesDir (cls : String) :
    String.ofList ((servicesDir ++ cls).toList.drop servicesDir.length) = cls := by
  rw [String.toList_append, ← String.length_toList, List.drop_left, String.ofList_toList]

namespace Policy

theorem isMaskedResource_iff {p : Policy} (services : p.maskServices = true) (name : String) :
    p.isMaskedResource name = true ↔
      startsWithAny p.maskedResourcePrefixes name = true ∨
        ∃ cls, name = servicesDir ++ cls ∧ p.isMaskedClass cls = true := by
  simp only [isMaskedResource, services, Bool.true_and, Bool.or_eq_true, Bool.and_eq_true]
  constructor
  · rintro (⟨under, masked⟩ | listed)
    · obtain ⟨cls, rfl⟩ := startsWith_servicesDir.mp under
      exact .inr ⟨cls, rfl, by rwa [drop_servicesDir] at masked⟩
    · exact .inl listed
  · rintro (listed | ⟨cls, rfl, masked⟩)
    · exact .inr listed
    · exact .inl ⟨startsWith_servicesDir.mpr ⟨cls, rfl⟩, by rwa [drop_servicesDir]⟩

theorem isMaskedClass_chainPolicy (exposeContainer : Bool) (name : String) :
    (chainPolicy exposeContainer).isMaskedClass name = false := by
  cases exposeContainer <;> rfl

theorem isMaskedResource_chainPolicy (exposeContainer : Bool) (name : String) :
    (chainPolicy exposeContainer).isMaskedResource name = false := by
  cases exposeContainer <;> simp [chainPolicy, isMaskedResource, startsWithAny, containerAndServletPolicy,
    servletApiOnlyPolicy]

theorem isExportedClass_chainPolicy (exposeContainer : Bool) (name : String) :
    (chainPolicy exposeContainer).isExportedClass name =
      (name.startsWith "javax." || exposeContainer && name.startsWith "org.eclipse.jetty.") := by
  cases exposeContainer <;> simp [chainPolicy, isExportedClass, startsWithAny, containerAndServletPolicy,
    servletApiOnlyPolicy]

end Policy

theorem hiddenResource_iff (name : String) :
    maskingPolicy.isMaskedResource name = true ↔ HiddenResource name :=
  Policy.isMaskedResource_iff rfl name

namespace Source

variable (store : Store)

theorem findClass_fixed (classes : List (String × String)) (resources : List (String × List String))
    (name : String) : (Source.fixed classes resources).findClass store name = answerClass name (classes.lookup name) := by
  rw [findClass]
  cases classes.lookup name <;> rfl

theorem findClass_unshared (p : Policy) (parent : Source) (name : String) :
    (Source.isolating p parent none).findClass store name =
      if p.isMaskedClass name then .error (.classNotFound name) else parent.findClass store name := by
  rw [findClass]
  split
  · rfl
  · cases parent.findClass store name with
    | ok location => rfl
    | error e => cases e <;> simp [findSecondaryClass]

theorem findClass_shared (p : Policy) (parent secondary : Source) (name : String)
    (shown : p.isMaskedClass name = false) :
    (Source.isolating p parent (some secondary)).findClass store name =
      match parent.findClass store name with
      | .error (.classNotFound missing) =>
        if p.isExportedClass name then secondary.findClass store name else .error (.classNotFound missing)
      | other => other := by
  rw [findClass, if_neg (by simp [shown])]
  rfl

theorem findResources_unexported (p : Policy) (parent : Source) (secondary : Option Source) (name : String)
    (unexported : p.exportedResources = none) :
    (Source.isolating p parent secondary).findResources store name =
      if p.isMaskedResource name then .ok [] else parent.findResources store name := by
  simp [findResources, unexported]

theorem findResource_isolating (p : Policy) (parent : Source) (secondary : Option Source) (name : String) :
    (Source.isolating p parent secondary).findResource store name =
      if p.isMaskedResource name then .ok none else parent.findResource store name :=
  rfl

theorem findResource_head_of_unexported {p : Policy} {parent : Source} (secondary : Option Source) {name : String}
    (unexported : p.exportedResources = none)
    (parentHeads : parent.findResource store name = firstOf <$> parent.findResources store name) :
    (Source.isolating p parent secondary).findResource store name =
      firstOf <$> (Source.isolating p parent secondary).findResources store name := by
  rw [findResource_isolating, findResources_unexported store p parent secondary name unexported]
  split
  · rfl
  · exact parentHeads

end Source

theorem answerClass_orElse (name : String) (first second : Option String) (exported : Bool) :
    (match answerClass name first with
      | .error (.classNotFound missing) =>
        if exported then answerClass name second else .error (.classNotFound missing)
      | other => other) =
      answerClass name (first <|> if exported then second else none) := by
  cases first <;> cases exported <;> rfl

section Chain

variable (store : Store) (host container : Source) (name : String)

theorem findClass_runChain (exposeContainer : Bool) :
    (runChain host container exposeContainer).findClass store name =
      match (Source.isolating maskingPolicy host none).findClass store name with
      | .error (.classNotFound missing) =>
        if name.startsWith "javax." || exposeContainer && name.startsWith "org.eclipse.jetty." then
          container.findClass store name
        else .error (.classNotFound missing)
      | other => other := by
  rw [runChain_eq, Source.findClass_shared store _ _ _ name (Policy.isMaskedClass_chainPolicy _ _),
    Policy.isExportedClass_chainPolicy]

theorem findResources_runChain_hidden :
    (runChain host container false).findResources store name =
      (Source.isolating maskingPolicy host none).findResources store name := by
  rw [runChain_eq, Source.findResources_unexported store _ _ _ name rfl, Policy.isMaskedResource_chainPolicy,
    if_neg Bool.false_ne_true]

theorem findResources_runChain_exposed :
    (runChain host container true).findResources store name =
      if name = "jndi.properties" then container.findResources store name else .ok [] := by
  rw [runChain_eq, Source.findResources, Policy.isMaskedResource_chainPolicy, if_neg Bool.false_ne_true]
  by_cases jndi : name = "jndi.properties" <;> simp [chainPolicy, containerAndServletPolicy, jndi]

theorem findResource_runChain (exposeContainer : Bool) :
    (runChain host container exposeContainer).findResource store name =
      (Source.isolating maskingPolicy host none).findResource store name := by
  rw [runChain_eq, Source.findResource_isolating, Policy.isMaskedResource_chainPolicy, if_neg Bool.false_ne_true]

end Chain

/-- Through the run chain over class and resource tables, a class is the host's when the build
tool's prefixes leave it visible and the host has it, and otherwise the container's when it is
servlet API (or, with the container exposed, the container's own) and the container has it;
anything else is not found. With the container exposed, resources are listed only for
`jndi.properties`, from the container; otherwise they are the host's, less the hidden ones. -/
theorem runChain_shows_what_policies_allow (hostClasses containerClasses : List (String × String))
    (hostResources containerResources : List (String × List String)) (exposeContainer : Bool)
    (store : Store) (name : String) :
    (runChain (.fixed hostClasses hostResources) (.fixed containerClasses containerResources) exposeContainer).findClass
        store name =
      answerClass name
        ((if startsWithAny maskingPolicy.maskedClassPrefixes name then none else hostClasses.lookup name) <|>
          (if name.startsWith "javax." || exposeContainer && name.startsWith "org.eclipse.jetty." then
            containerClasses.lookup name else none)) ∧
    (exposeContainer = true →
      (runChain (.fixed hostClasses hostResources) (.fixed containerClasses containerResources) exposeContainer).findResources
          store name =
        .ok (if name = "jndi.properties" then (containerResources.lookup name).getD [] else [])) ∧
    (exposeContainer = false → HiddenResource name →
      (runChain (.fixed hostClasses hostResources) (.fixed containerClasses containerResources) exposeContainer).findResources
          store name = .ok []) ∧
    (exposeContainer = false → ¬HiddenResource name →
      (runChain (.fixed hostClasses hostResources) (.fixed containerClasses containerResources) exposeContainer).findResources
          store name = .ok ((hostResources.lookup name).getD [])) := by
  refine ⟨?_, ?_, ?_, ?_⟩
  · have hostAnswer : (Source.isolating maskingPolicy (.fixed hostClasses hostResources) none).findClass store name =
        answerClass name (if startsWithAny maskingPolicy.maskedClassPrefixes name then none else hostClasses.lookup name) := by
      rw [Source.findClass_unshared, Source.findClass_fixed, Policy.isMaskedClass]
      split <;> rfl
    rw [findClass_runChain, hostAnswer, Source.findClass_fixed, answerClass_orElse]
  · rintro rfl
    rw [findResources_runChain_exposed]
    split <;> rfl
  · rintro rfl hidden
    rw [findResources_runChain_hidden, Source.findResources_unexported _ _ _ _ _ rfl,
      if_pos ((hiddenResource_iff name).mpr hidden)]
  · rintro rfl shown
    rw [findResources_runChain_hidden, Source.findResources_unexported _ _ _ _ _ rfl,
      if_neg fun masked => shown ((hiddenResource_iff name).mp masked)]
    rfl

/-- Single resource lookups agree with the head of the listing through the masking loader and
through the chain with the container hidden, whenever the host's do. Through the chain with the
container exposed, a single lookup still answers the head of the masking loader's listing. -/
theorem findResource_heads_listing_unless_exposed (store : Store) (host container : Source)
    (hostHeads : ∀ n, host.findResource store n = Source.firstOf <$> host.findResources store n) (name : String) :
    (Source.isolating maskingPolicy host none).findResource store name =
        Source.firstOf <$> (Source.isolating maskingPolicy host none).findResources store name ∧
      (runChain host container false).findResource store name =
        Source.firstOf <$> (runChain host container false).findResources store name ∧
      (runChain host container true).findResource store name =
        Source.firstOf <$> (Source.isolating maskingPolicy host none).findResources store name := by
  have masking := Source.findResource_head_of_unexported store none (p := maskingPolicy) rfl (hostHeads name)
  refine ⟨masking, ?_, ?_⟩
  · rw [findResource_runChain, findResources_runChain_hidden]
    exact masking
  · rw [findResource_runChain]
    exact masking

/-- A host table heads its own listings, so single lookups of its resources agree with the
listings through the masking loader and the hidden chain. -/
theorem host_table_heads_listing :
    (∀ n, (Source.fixed [] [("a", ["h"])]).findResource {} n =
        Source.firstOf <$> (Source.fixed [] [("a", ["h"])]).findResources {} n) ∧
      (Source.isolating maskingPolicy (.fixed [] [("a", ["h"])]) none).findResource {} "a" =
          Source.firstOf <$> (Source.isolating maskingPolicy (.fixed [] [("a", ["h"])]) none).findResources {} "a" ∧
        (runChain (.fixed [] [("a", ["h"])]) .empty false).findResource {} "a" =
          Source.firstOf <$> (runChain (.fixed [] [("a", ["h"])]) .empty false).findResources {} "a" ∧
        (runChain (.fixed [] [("a", ["h"])]) .empty true).findResource {} "a" =
          Source.firstOf <$> (Source.isolating maskingPolicy (.fixed [] [("a", ["h"])]) none).findResources {} "a" :=
  have hostHeads : ∀ n, (Source.fixed [] [("a", ["h"])]).findResource {} n =
      Source.firstOf <$> (Source.fixed [] [("a", ["h"])]).findResources {} n := fun _ => rfl
  ⟨hostHeads, findResource_heads_listing_unless_exposed {} _ .empty hostHeads "a"⟩

/-- With the container exposed, a resource the host has is found by a single lookup but not
listed. -/
theorem exposed_chain_finds_unlisted_resource :
    (runChain (.fixed [] [("a", ["h"])]) (.fixed [] []) true).findResource {} "a" = .ok (some "h") ∧
      (runChain (.fixed [] [("a", ["h"])]) (.fixed [] []) true).findResources {} "a" = .ok [] :=
  ⟨rfl, rfl⟩

end PluginPack.Isolation
