import Crontab.Settings.Dotenv
import Crontab.Settings.Load
import Crontab.Yaml.Document

/-! # Readers of settings

The readers of this program. They know a part of both formats: of YAML maps, lists
and scalars without anchors, tags and block texts, and of dotenv files bindings,
quotes and references.
-/
namespace Crontab.Readers

def readYaml (t : Text) : Except SettingsError Value :=
  match Yaml.read? t with
  | none => throw .malformedDocument
  | some v => return v

def own : Readers where
  document := readYaml
  dotenv := Dotenv.load

end Crontab.Readers
