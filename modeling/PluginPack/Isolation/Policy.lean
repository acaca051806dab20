/-!
Rules on what a class loader lets through when a component runs locally.

A host runs the component inside a servlet container that the build tool loads.
A policy hides classes and resources by name prefix, may also hide the service
files `META-INF/services/<class>` of hidden classes, names the classes that a
secondary source may supply when the parent lacks them, and may restrict resource
listings to a few names taken from the secondary source only. An empty list of
prefixes hides or exports nothing; a prefix that is empty matches every name.
-/

namespace PluginPack.Isolation

def servicesDir : String := "META-INF/services/"

def startsWithAny (prefixes : List String) (name : String) : Bool :=
  prefixes.any fun p => name.startsWith p

structure Policy where
  name : String
  maskedClassPrefixes : List String := []
  maskedResourcePrefixes : List String := []
  maskServices : Bool := false
  exportedClassPrefixes : List String := []
  exportedResources : Option (List String) := none
  deriving Repr, Inhabited

namespace Policy

def isMaskedClass (p : Policy) (name : String) : Bool := startsWithAny p.maskedClassPrefixes name

def isMaskedResource (p : Policy) (name : String) : Bool :=
  (p.maskServices && name.startsWith servicesDir &&
      p.isMaskedClass (String.ofList (name.toList.drop servicesDir.length))) ||
    startsWithAny p.maskedResourcePrefixes name

def isExportedClass (p : Policy) (name : String) : Bool := startsWithAny p.exportedClassPrefixes name

end Policy

def maskingPolicy : Policy where
  name := "masking"
  maskedClassPrefixes :=
    ["org.kohsuke", "org.apache.maven", "org.sonatype", "org.cyberneko", "org.codehaus.plexus"]
  maskedResourcePrefixes :=
    ["org/kohsuke", "org/apache/maven", "org/sonatype", "org/codehaus/plexus", "META-INF/plexus",
      "META-INF/maven"]
  maskServices := true

def servletApiOnlyPolicy : Policy where
  name := "servlet-api-only"
  exportedClassPrefixes := ["javax."]

def containerAndServletPolicy : Policy where
  name := "container-and-servlet-api"
  exportedClassPrefixes := ["javax.", "org.eclipse.jetty."]
  exportedResources := some ["jndi.properties"]

end PluginPack.Isolation
