/-
Chains of settings files.

A file of settings names others that come before it, and these may name others in turn.  No file
is remembered on the way down, which may branch at every file, so nothing but the number of files
in a chain keeps it from going on.  Loading recurses on that number and always ends.

When it succeeds is said of the files alone, by the relation `Names` between a file and one that
it names.  A chain from a file is the file itself or goes on with a chain from one that it names,
and this is how the induction on the depth goes.  A circle needs no care of its own: it can be
gone round as often as one likes, so from a file that leads to it there are chains of any length.
-/
import DeviceLint.Proofs.Layers
import DeviceLint.Proofs.Outcome
import Mathlib.Data.List.Chain
import Mathlib.Logic.Relation

namespace DeviceLint.Config

open Relation (ReflTransGen TransGen)

variable {read : FileReader}

/-! ### One file -/

/-- Whether these are the settings in a file: it can be read, its name tells a format, and this is
what its text says in that format. -/
def Holds (read : FileReader) (path : String) (c : Config) : Prop :=
  ∃ text format, read path = .ok text ∧
    Format.ofExtension? (Path.extension path) = some format ∧
    format.decode? decode text = some c

/-- Whether a file names another one, which it sees from its own directory. -/
def Names (read : FileReader) (path base : String) : Prop :=
  ∃ c, Holds read path c ∧
    ∃ name ∈ c.bases, preset? name = none ∧ Path.join (directoryOf path) name = base

theorem Holds.unique {path : String} {c c' : Config} (h : Holds read path c)
    (h' : Holds read path c') : c = c' := by
  obtain ⟨text, format, htext, hformat, hc⟩ := h
  obtain ⟨text', format', htext', hformat', hc'⟩ := h'
  cases htext.symm.trans htext'
  cases hformat.symm.trans hformat'
  exact Option.some.inj (hc.symm.trans hc')

/-- Whether some files go round in circles, under whatever paths: each names another one of them. -/
def IsCircle (read : FileReader) (among : String → Prop) : Prop :=
  ∀ p, among p → ∃ base, Names read p base ∧ among base

/-- What leads to a circle might as well be part of it. -/
theorem IsCircle.reaching {among : String → Prop} (h : IsCircle read among) :
    IsCircle read fun q => ∃ p, ReflTransGen (Names read) q p ∧ among p := by
  rintro q ⟨p, hq, hp⟩
  rcases hq.cases_head with rfl | ⟨base, hbase, hq⟩
  · obtain ⟨base, hbase, hamong⟩ := h q hp
    exact ⟨base, hbase, base, .refl, hamong⟩
  · exact ⟨base, hbase, p, hq, hp⟩

end DeviceLint.Config
