import PluginPack.Files.Store
import PluginPack.Archive.Fault
import PluginPack.Text.CodePoints

/-!
Why packaging fails.

Each constructor names a cause; `PackagingError.message` gives the text that
reports it. Assembly failures name the source and destination involved, when
there are any, after the message.
-/

namespace PluginPack

open PluginPack.Files

inductive PackagingError where
  | pomNotFound (path : String)
  | pomUnreadable (path : String)
  | pomIncomplete (message : String)
  | unresolved (message : String)
  | unclassifiable (message : String) (cause : String)
  | misconfigured (message : String)
  | versionPolicy (message : String)
  | assembly (message : String) (source destination : Option String)
  | incompatible (message : String)
  | optionalConflict (message : String)
  | general (message : String)
  | invalidValue (message : String)
  | archive (fault : Archive.Fault)
  | undecodable (fault : Text.Utf8Fault)
  | unencodable (fault : Text.EncodeFault)
  | fileSystem (e : FsError)
  | invalidModel
  | parentCycle
  | homeUnknown
  deriving Repr

def PackagingError.message : PackagingError → String
  | .pomNotFound path => "pom.xml not found: " ++ path
  | .pomUnreadable path => "Failed to parse pom.xml: " ++ path
  | .unclassifiable m _ => m
  | .pomIncomplete m | .unresolved m | .misconfigured m
  | .versionPolicy m | .incompatible m | .optionalConflict m | .general m
  | .invalidValue m => m
  | .archive f => f.message
  | .undecodable f => f.message
  | .unencodable f => f.message
  | .assembly m none none => m
  | .assembly m src dst =>
    m ++ " (source=" ++ src.getD "None" ++ ", destination=" ++ dst.getD "None" ++ ")"
  | .fileSystem e => e.message
  | .invalidModel => "validation failed"
  | .parentCycle => "maximum recursion depth exceeded"
  | .homeUnknown => "Could not determine home directory."

def PackagingError.className : PackagingError → String
  | .pomNotFound _ => "PomNotFoundError"
  | .pomUnreadable _ => "PomParseError"
  | .pomIncomplete _ => "PomModelError"
  | .unresolved _ => "ResolutionError"
  | .unclassifiable .. => "ClassificationError"
  | .misconfigured _ => "ConfigurationError"
  | .versionPolicy _ => "VersionPolicyViolation"
  | .assembly .. => "AssemblyIOError"
  | .incompatible _ => "CompatibilityError"
  | .optionalConflict _ => "OptionalDependencyConflict"
  | .general _ => "PackagerError"
  | .invalidValue _ => "ValueError"
  | .archive f => f.kind
  | .undecodable _ => "UnicodeDecodeError"
  | .unencodable _ => "UnicodeEncodeError"
  | .fileSystem e =>
    match e.kind with
    | .notFound => "FileNotFoundError"
    | .isDirectory => "IsADirectoryError"
    | .notDirectory => "NotADirectoryError"
    | .alreadyExists => "FileExistsError"
    | .notEmpty => "OSError"
  | .invalidModel => "ValidationError"
  | .parentCycle => "RecursionError"
  | .homeUnknown => "RuntimeError"

def PackagingError.isPackagingFailure : PackagingError → Bool
  | .invalidValue _ | .archive _ | .undecodable _ | .unencodable _ | .fileSystem _ | .invalidModel | .parentCycle
  | .homeUnknown => false
  | _ => true

abbrev Outcome := Except PackagingError

def liftFs (x : Except FsError α) : Outcome α := x.mapError .fileSystem

def decodeText (bytes : ByteArray) : Outcome String := (Text.decodeUtf8Strict bytes).mapError .undecodable

end PluginPack
