/-
What tells whether a text matches a pattern.

There are two kinds of patterns, regular expressions for what a statement says and
patterns for the names of files.  How either is read and matched is left to an engine.
All that is asked of it is to tell whether something is a pattern, and if so what it
matches.
-/

namespace DeviceLint

/-- A way to compile regular expressions, in which letter case counts or not: into searches of
texts, or why there is none. -/
structure RegexEngine where
  compile : (ignoreCase : Bool) → (pattern : String) → Except String (String → Bool)

/-- A way to compile patterns for names of files: into tests of names, if they are patterns. -/
structure GlobEngine where
  compile? : (pattern : String) → Option (String → Bool)

/-- Whether a regular expression is found in a text; what is none is found nowhere. -/
def RegexEngine.finds (engine : RegexEngine) (ignoreCase : Bool) (pattern subject : String) :
    Bool :=
  match engine.compile ignoreCase pattern with
  | .ok search => search subject
  | .error _ => false

/-- Whether a pattern matches the name of a file; what is no pattern matches no name. -/
def GlobEngine.matchesName (engine : GlobEngine) (pattern name : String) : Bool :=
  match engine.compile? pattern with
  | some test => test name
  | none => false

end DeviceLint
