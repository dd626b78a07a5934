import LintHost.Config.Effective
import LintHost.Config.Finder
import LintHost.Digest
import LintHost.Roots

/-!
# Resolving a configuration

From the settings and a file to the configuration of its lint, and from that to the two
directories that a run of the checker needs: the one that it runs in, and the one for its
cache.
-/

namespace LintHost

/-- The configuration for a file: the settings, changed by the nearest configuration file.
The location of that file may be remembered, its text is read every time. -/
def resolveConfig (finder : Finder) (fs : FileSystem) (settings : Settings) (file : Path) :
    Except ConfigError EffectiveConfig × Finder :=
  match EffectiveConfig.ofSettings settings with
  | .error e => (.error e, finder)
  | .ok config =>
    let (found, finder) := finder.find fs (file.parent?.getD file)
    match found with
    | none => (.ok config, finder)
    | some path =>
      match fs.readText path with
      | .error cause => (.error (.unreadable path cause), finder)
      | .ok text => (.ok (config.applyProject path (Ini.parse text)), finder)

/-- The directory to run the checker in: that of the configuration file, else the root that
encloses the file, else the file's own, which is `.` for a bare file name. -/
def workingDirectory (config : EffectiveConfig) (file : Path) (roots : Roots) : Path :=
  match config.configFile.bind Path.parent? with
  | some directory => directory
  | none =>
    match roots.rootFor file with
    | some root => root
    | none =>
      match file.parent? with
      | some directory => if directory.text = "" then ⟨"."⟩ else directory
      | none => ⟨"."⟩

/-- The name of a project's own cache directory: its base name, a hyphen and the digest of
its whole path. -/
def cacheSubdirectory (directory : Path) : String :=
  directory.fileName?.getD "" ++ "-" ++ String.ofList (Digest.ofText directory.chars)

/-- The cache directory of a run: an absolute setting is shared and gets a directory for each
project, a relative one is below the working directory anyway. -/
def cacheDirectory (config : EffectiveConfig) (directory : Path) : Except ConfigError Path :=
  if config.cacheDirectory = "" then .error .emptyCacheDirectory
  else
    let template : Path := ⟨config.cacheDirectory⟩
    if template.isAbsolute then .ok (template.join ⟨cacheSubdirectory directory⟩)
    else .ok template

end LintHost
