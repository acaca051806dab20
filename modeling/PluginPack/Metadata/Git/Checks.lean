import PluginPack.Metadata.Git.Config

/-!
The configuration variables that git reads, and checks, each time it starts in a
repository.

A value that such a check rejects stops git before it does anything, so a
repository whose configuration holds one cannot be read at all. Variables
outside this list are read only when some command needs them, and any value
passes here.

The checks are: a truth value (see `configBool?`); a text, which must be given;
a whole number of the C `int` range; a size of the C `unsigned long` range; a
compression level from -1 to 9; a truth value or one of some words; exactly one
of some words; the length of abbreviated object ids (`auto`, false, or 4 up to
the length of an object id); a comment character (`auto` or a single byte); and
a color, up to two colors among attributes and `reset`.
-/

namespace PluginPack.Metadata.Git

inductive ValueCheck where
  | truth
  | text
  | number
  | size
  | compression
  | truthOr (words : List String) (caseBlind : Bool)
  | oneOf (words : List String) (caseBlind : Bool)
  | abbreviation
  | commentChar
  | color

def lowerText (s : String) : String := String.ofList (s.toList.map Char.toLower)

def isWordOf (words : List String) (caseBlind : Bool) (w : String) : Bool :=
  if caseBlind then words.contains (lowerText w) else words.contains w

def colorNames : List String := ["black", "red", "green", "yellow", "blue", "magenta", "cyan", "white"]

def isColorNumber (w : String) : Bool :=
  let (negative, digits) := match w.toList with
    | '-' :: rest => (true, rest)
    | '+' :: rest => (false, rest)
    | cs => (false, cs)
  !digits.isEmpty && digits.all Char.isDigit &&
    let n := digits.foldl (fun acc c => acc * 10 + (c.toNat - '0'.toNat)) 0
    if negative then n ≤ 1 else n < 256

def isColorWord (w : String) : Bool :=
  let l := lowerText w
  l == "normal" || l == "default" ||
    (w.length == 7 && w.startsWith "#" && (w.toList.drop 1).all isHexDigit) ||
    colorNames.contains l || (l.startsWith "bright" && colorNames.contains (String.ofList (l.toList.drop 6))) ||
    isColorNumber w

def isAttributeWord (w : String) : Bool :=
  let cs := w.toList
  let cs := match cs with
    | 'n' :: 'o' :: '-' :: rest => rest
    | 'n' :: 'o' :: rest => rest
    | _ => cs
  ["bold", "dim", "italic", "ul", "blink", "reverse", "strike"].contains (String.ofList cs)

def colorWordsValid : Nat → List String → Bool
  | _, [] => true
  | colors, w :: rest =>
    if lowerText w == "reset" then colorWordsValid colors rest
    else if isColorWord w then colors < 2 && colorWordsValid (colors + 1) rest
    else isAttributeWord w && colorWordsValid colors rest

def ValueCheck.accepts (hexLength : Nat) : ValueCheck → Option String → Bool
  | .truth, v => (configBool? v).isSome
  | .text, v => v.isSome
  | .number, v => (configInt? v).isSome
  | .size, v => (configSize? v).isSome
  | .compression, v =>
    match configInt? v with
    | some n => -1 ≤ n && n ≤ 9
    | none => false
  | .truthOr words caseBlind, v =>
    (v.map (isWordOf words caseBlind)).getD false || (configBool? v).isSome
  | .oneOf words caseBlind, v => (v.map (isWordOf words caseBlind)).getD false
  | .abbreviation, none => false
  | .abbreviation, some w =>
    let inRange := match configInt? (some w) with
      | some n => 4 ≤ n && n ≤ hexLength
      | none => false
    ["auto", "false", "no", "off", ""].contains (lowerText w) || inRange
  | .commentChar, none => false
  | .commentChar, some w => lowerText w == "auto" || w.utf8ByteSize == 1
  | .color, none => false
  | .color, some w =>
    colorWordsValid 0 ((splitAt ' ' (w.toList.map fun c => if isGitSpace c then ' ' else c)).filterMap
      fun cs => if cs.isEmpty then none else some (String.ofList cs))

def truthVariables : List String :=
  ["advice.addembeddedrepo", "advice.addemptypathspec", "advice.addignoredfile", "advice.amworkdir",
   "advice.ambiguousfetchrefspec", "advice.checkoutambiguousremotebranchname",
   "advice.commitbeforemerge", "advice.detachedhead", "advice.diverging",
   "advice.fetchshowforcedupdates", "advice.graftfiledeprecated", "advice.ignoredhook",
   "advice.implicitidentity", "advice.nestedtag", "advice.objectnamewarning",
   "advice.pushalreadyexists", "advice.pushfetchfirst", "advice.pushneedsforce",
   "advice.pushnonffcurrent", "advice.pushnonffmatching", "advice.pushnonfastforward",
   "advice.pushrefneedsupdate", "advice.pushunqualifiedrefname", "advice.pushupdaterejected",
   "advice.resetnorefresh", "advice.resolveconflict", "advice.rmhints", "advice.sequencerinuse",
   "advice.setupstreamfailure", "advice.skippedcherrypicks", "advice.statusaheadbehindwarning",
   "advice.statushints", "advice.statusuoption", "advice.submodulealternateerrorstrategydie",
   "advice.submodulesnotupdated", "advice.suggestdetachinghead", "advice.updatesparsepath",
   "advice.waitingforeditor", "advice.worktreeaddorphan",
   "color.pager", "commitgraph.readchangedpaths", "core.bare", "core.commitgraph", "core.filemode",
   "core.fsyncobjectfiles", "core.ignorecase", "core.ignorestat", "core.multipackindex",
   "core.precomposeunicode", "core.prefersymlinkrefs", "core.preloadindex", "core.protecthfs",
   "core.protectntfs", "core.quotepath", "core.sparsecheckout", "core.sparsecheckoutcone",
   "core.symlinks", "core.trustctime", "core.usereplacerefs", "core.warnambiguousrefs",
   "extensions.worktreeconfig", "feature.experimental", "feature.manyfiles",
   "fetch.writecommitgraph", "gc.writecommitgraph", "index.skiphash", "index.sparse",
   "pack.readreverseindex", "pack.usebitmapboundarytraversal", "pack.usesparse",
   "sparse.expectfilesoutsideofpatterns", "user.useconfigonly"]

def textVariables : List String :=
  ["attr.tree", "author.email", "author.name", "committer.email", "committer.name", "core.askpass",
   "core.attributesfile", "core.checkroundtripencoding", "core.checkstat", "core.editor",
   "core.excludesfile", "core.fsync", "core.fsyncmethod", "core.hookspath", "core.notesref",
   "core.untrackedcache", "core.whitespace", "core.worktree", "i18n.commitencoding",
   "i18n.logoutputencoding", "mailmap.blob", "mailmap.file", "user.email", "user.name"]

def otherVariables : List (String × ValueCheck) :=
  [("commitgraph.generationversion", .number), ("core.maxtreedepth", .number), ("index.version", .number),
   ("core.bigfilethreshold", .size), ("core.packedgitwindowsize", .size), ("core.packedgitlimit", .size),
   ("core.deltabasecachelimit", .size), ("pack.packsizelimit", .size),
   ("core.compression", .compression), ("core.loosecompression", .compression),
   ("pack.compression", .compression),
   ("core.autocrlf", .truthOr ["input"] true), ("core.logallrefupdates", .truthOr ["always"] true),
   ("core.safecrlf", .truthOr ["warn"] true), ("color.advice", .truthOr ["never", "always", "auto"] true),
   ("branch.autosetupmerge", .truthOr ["always", "inherit", "simple"] false),
   ("branch.autosetuprebase", .oneOf ["never", "local", "remote", "always"] false),
   ("push.default", .oneOf ["nothing", "matching", "simple", "upstream", "tracking", "current"] false),
   ("core.createobject", .oneOf ["rename", "link"] false),
   ("fetch.negotiationalgorithm", .oneOf ["consecutive", "skipping", "noop", "default"] true),
   ("core.abbrev", .abbreviation), ("core.commentchar", .commentChar), ("color.advice.hint", .color)]

def startupCheck (key : String) : Option ValueCheck :=
  if truthVariables.contains key then some .truth
  else if textVariables.contains key then some .text
  else otherVariables.lookup key

def passesStartup (hexLength : Nat) (entry : String × Option String) : Bool :=
  match startupCheck entry.1 with
  | some check => check.accepts hexLength entry.2
  | none => true

example : passesStartup 40 ("core.filemode", some "maybe") = false := by decide +kernel
example : passesStartup 40 ("core.abbrev", some "7") = true := by decide +kernel
example : passesStartup 40 ("color.advice.hint", some "bold red blue") = true := by decide +kernel

end PluginPack.Metadata.Git
