import RoleAudit.CommandLine
import RoleAudit.Settings.Loading
import RoleAudit.Settings.Overrides

/-!
# Resolving settings

The settings of a run: those of the file that the command line names, with what the command line
says put over them.
-/

namespace RoleAudit

namespace Options

/-- The settings that a command line replaces. Asking for all Java files leaves no markers. -/
def overrides (o : Options) : Overrides where
  projectName := o.projectName
  buildDirectory := o.buildDirectory
  reportFile := o.reportFile
  basePackage := o.basePackage
  sourceRoots := o.sourceRoots
  markers := if o.allJavaFiles then some [] else o.markers
  strict := if o.lenient then some false else none

/-- The settings of a run. -/
def settings (o : Options) (d : Files.Disk) (environment : Option String) :
    List Log.Entry × Except SettingsObstacle Settings :=
  match Settings.load d environment o.config with
  | (log, .error obstacle) => (log, .error obstacle)
  | (log, .ok s) => (log, (s.override o.overrides).mapError .failure)

end Options

end RoleAudit
