/-!
# Generator configuration

One run of the generator is set up by: where the code goes (`output`, standard output when
absent), the native library named in `[DllImport]` attributes (none when absent), the name of
the class that holds the extern functions, extra arguments for the C front end, include
directories, and whether included files are followed at all, and beyond the include roots.

A configuration read from JSON may hold text that cannot be encoded as UTF-8 (see
`Json.Unpaired`); `unencodable` keeps which members do, so that writing them out fails as it
should.
-/

namespace NativeBindings

/-- The configuration of one run. -/
structure Config where
  output : Option String := none
  libraryName : Option String := none
  className : String := "Marshal"
  clangArgs : List String := []
  includeDirs : List String := []
  followIncludes : Bool := true
  followSystemIncludes : Bool := false
  /-- The members whose text has no UTF-8 form, in member order, each with the reason. -/
  unencodable : List (String × String) := []
deriving DecidableEq, Inhabited, Repr

namespace Config

/-- The arguments given to the C front end for every file: the extra arguments, then one
`-I` per include directory. -/
def parseArgs (c : Config) : List String :=
  c.clangArgs ++ c.includeDirs.map ("-I" ++ ·)

end Config

end NativeBindings
