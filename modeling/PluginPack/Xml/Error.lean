/-!
What can go wrong while reading an XML document.

A fatal error stops the reading: the document is not well formed. Other
problems are collected as issues, warnings and errors, in the order they arise.
A document with issues is still accepted when the last issue is a warning, or
when every error among them is a reference to an entity that no declaration
names; otherwise it is refused as well.
-/

namespace PluginPack.Xml

structure XmlError where
  reason : String
  deriving Repr

def refuse (reason : String) : Except XmlError α := .error ⟨reason⟩

inductive Issue where
  | warning
  | error (undeclared : Bool)
  deriving DecidableEq, Repr

def acceptsIssues (issues : List Issue) : Bool :=
  match issues.getLast? with
  | none | some .warning => true
  | some (.error _) => issues.all fun i => i != .error false

example : acceptsIssues [.error false, .warning] = true := by decide
example : acceptsIssues [.error true, .error false] = false := by decide
example : acceptsIssues [.warning, .error true] = true := by decide

end PluginPack.Xml
