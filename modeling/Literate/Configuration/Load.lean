/-
This file finds and reads configuration files. A file that is named must be there; a
file that is looked for in a directory may be missing, or unreadable, and is then
passed over. What is asked for directly wins over the file, which must be valid
nevertheless.
-/

import Literate.Configuration.Settings
import Literate.FileTree

namespace Literate

/-- Which configuration file is used. -/
inductive ConfigurationFile where
  /-- A file that must be there. -/
  | named (path : Text)
  /-- A file that is used if it is there. -/
  | discovered (path : Text)
  deriving DecidableEq

/-- What a configuration is made from: at most one file, and what is asked for directly. -/
structure ConfigurationPlan where
  file : Option ConfigurationFile := none
  policy : Option IncludePolicy := none
  defaultRoot : Option Text := none
  deriving DecidableEq

namespace ConfigurationPlan

/-- The name of the configuration file that is looked for in a directory. -/
def localName : Text := Text.ofString "minweb.toml"

/-- The plan with a file that must be there, in place of any other. -/
def withFile (plan : ConfigurationPlan) (path : Text) : ConfigurationPlan :=
  { plan with file := some (.named path) }

/-- The plan with the file of a directory, if there is one, in place of any other. -/
def discoverIn (plan : ConfigurationPlan) (directory : Text) : ConfigurationPlan :=
  { plan with file := some (.discovered (Path.join directory localName)) }

/-! ### Finding the file -/

/-- A path with an extension appended to the name it ends in. There is none if the path ends in
no name. -/
def extended? (path : Text) : Option Text :=
  let pieces := Path.trimmed (Path.pieces path)
  match pieces.getLast? with
  | none => none
  | some last =>
    if last = ['.', '.'] then none
    else some (Text.join ['/'] pieces ++ Text.ofString ".toml")

/-- The path under which a configuration file is found: as it is given, or with an extension
appended. -/
def findFile? (tree : FileTree) (path : Text) : Option Text :=
  if tree.isFile path then some path
  else (extended? path).filter tree.isFile

/-- The name of a file in messages: its path without the pieces that lead nowhere. -/
def shownPath (path : Text) : Text :=
  Text.join ['/'] ((Path.pieces path).filter fun piece => !Path.isIdle piece)

/-- The path and the text of a configuration file. -/
def readFile (tree : FileTree) (path : Text) : Except ConfigurationError (Text × Text) :=
  match findFile? tree path with
  | none => .error (.notFound path)
  | some found =>
    match tree.readText found with
    | .ok text => .ok (found, text)
    | .error reason => .error (.unreadable reason)

/-- The settings that a text in a file makes together with the standard ones. -/
def fileConfiguration (found : Text × Text) : Except ConfigurationError Configuration :=
  match Toml.parse? found.2 with
  | none => .error (.unparsable (shownPath found.1))
  | some settings => Settings.configuration (shownPath found.1) (Settings.withFile settings)

/-! ### Building the configuration -/

/-- The configuration without what is asked for directly. -/
def base (plan : ConfigurationPlan) (tree : FileTree) : Except ConfigurationError Configuration :=
  match plan.file with
  | none => .ok .standard
  | some (.named path) =>
    match readFile tree path with
    | .ok found => fileConfiguration found
    | .error error => .error error
  | some (.discovered path) =>
    match readFile tree path with
    | .ok found => fileConfiguration found
    | .error _ => .ok .standard

/-- The configuration of a plan. -/
def build (plan : ConfigurationPlan) (tree : FileTree) :
    Except ConfigurationError Configuration :=
  (plan.base tree).map fun configuration =>
    { configuration with
      policy := plan.policy.getD configuration.policy
      defaultRoot := plan.defaultRoot.getD configuration.defaultRoot }

end ConfigurationPlan

end Literate
