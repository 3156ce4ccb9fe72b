/-
What settings inherit, file by file.

Loading puts a file over what it inherits, and that may itself be files over what they inherit.
As layers may be grouped at will, the settings are the layers of all these files, put over one
another in the order in which they are left: first what a file inherits, from the first base to
the last, and then the file.

`Heritage` is the tree of files and presets, and `IsOf` says whose tree it is without loading
anything.  What settings say of a rule or a file can then be told layer by layer, and no layer can
take back that another one has turned a rule off.
-/
import DeviceLint.Proofs.Chains

namespace DeviceLint

/-! ### Two layers -/

namespace RulesConfig

end RulesConfig

/-! ### Several layers -/

namespace Config

end Config

/-! ### Trees of files -/

/-- What settings inherit: a preset, or a file with what it inherits in turn. -/
inductive Heritage where
  | preset (layer : Config)
  | file (path : String) (layer : Config) (bases : List Heritage)

namespace Heritage

open Config (Holds directoryOf preset?)

mutual

/-- The layers of a tree, each of them after all that it inherits. -/
def layers : Heritage → List Config
  | preset layer => [layer]
  | file _ layer bases => layersAll bases ++ [layer]

def layersAll : List Heritage → List Config
  | [] => []
  | base :: bases => layers base ++ layersAll bases

end

mutual

/-- Whether a tree is that of a file: of the settings it holds, with its paths seen from its own
directory, and of the bases that it names. -/
inductive IsOf (read : FileReader) : String → Heritage → Prop
  | file {path : String} {c : Config} {bases : List Heritage} (hc : Holds read path c)
      (hbases : AreOf read (directoryOf path) c.bases bases) :
      IsOf read path (file path (c.rebase (directoryOf path)) bases)

/-- Whether trees are those of the bases that are named in a directory, one by one. -/
inductive AreOf (read : FileReader) : String → List String → List Heritage → Prop
  | nil {directory : String} : AreOf read directory [] []
  | preset {directory name : String} {names : List String} {layer : Config}
      {bases : List Heritage} (hpreset : preset? name = some layer)
      (hbases : AreOf read directory names bases) :
      AreOf read directory (name :: names) (preset layer :: bases)
  | file {directory name : String} {names : List String} {base : Heritage}
      {bases : List Heritage} (hpreset : preset? name = none)
      (hbase : IsOf read (Path.join directory name) base)
      (hbases : AreOf read directory names bases) :
      AreOf read directory (name :: names) (base :: bases)

end

variable {read : FileReader}

mutual

/-- A file has one tree. -/
theorem IsOf.unique {path : String} {tree tree' : Heritage} :
    IsOf read path tree → IsOf read path tree' → tree = tree'
  | .file hc hbases, .file hc' hbases' => by
      cases hc.unique hc'
      rw [AreOf.unique hbases hbases']

theorem AreOf.unique {directory : String} {names : List String} {bases bases' : List Heritage} :
    AreOf read directory names bases → AreOf read directory names bases' → bases = bases'
  | .nil, .nil => rfl
  | .preset hpreset hbases, .preset hpreset' hbases' => by
      cases hpreset.symm.trans hpreset'
      rw [AreOf.unique hbases hbases']
  | .preset hpreset _, .file hpreset' _ _ => by cases hpreset.symm.trans hpreset'
  | .file hpreset _ _, .preset hpreset' _ => by cases hpreset.symm.trans hpreset'
  | .file _ hbase hbases, .file _ hbase' hbases' => by
      rw [IsOf.unique hbase hbase', AreOf.unique hbases hbases']

end

end Heritage

namespace Config

variable {read : FileReader}

end Config

end DeviceLint
