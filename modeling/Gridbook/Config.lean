import Gridbook.Path
import Gridbook.Settings.Check
import Gridbook.Text.Case

/-! # Configuration

What the environment may set: how many values inference looks at, how wide columns are shown, and
where settings files are kept.
-/

namespace Gridbook

/-- The configuration of the library. -/
structure Config where
  /-- How many values of a column its type is inferred from. -/
  sampleSize : Int
  /-- The width of columns for which none is stored. -/
  columnWidth : Int
  /-- The directory of the settings files. -/
  directory : String
  deriving Repr, DecidableEq

namespace Config

def standard : Config := ⟨10, 200, ".tablecalc/settings"⟩

/-- The value of a variable, whose name counts in any case; the last one counts. -/
def lookup? (environment : List (String × String)) (name : String) : Option String :=
  (environment.reverse.find? fun (key, _) => Text.lower key == name).map (·.2)

def positive (text : String) : Checked Int :=
  match Checked.integerText text with
  | .ok n => if n < 1 then Checked.issue .greaterThanEqual else Checked.ok n
  | .error found => .error found

def integer (environment : List (String × String)) (name : String) (default : Int) : Checked Int :=
  match lookup? environment ("tablecalc_" ++ name) with
  | some text => (positive text).under name
  | none => Checked.ok default

def ofEnvironment (environment : List (String × String)) : Except Fault Config :=
  let checked : Checked Config :=
    (fun sampleSize columnWidth => ⟨sampleSize, columnWidth,
      match lookup? environment "tablecalc_settings_dir" with
      | some path => (Path.ofText path).text
      | none => standard.directory⟩) <$>
      integer environment "inference_sample_size" standard.sampleSize
      <*> integer environment "default_column_width" standard.columnWidth
  checked.toExcept

end Config

end Gridbook
