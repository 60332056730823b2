/-!
# Settings
-/

namespace Rowbase

/-- Where a server listens and where it keeps databases; without a folder it keeps them in
memory. -/
structure Settings where
  listenAddress : String
  folder : Option String
  deriving DecidableEq, Repr

/-- The settings of a server that is told nothing else. -/
def Settings.standard : Settings where
  listenAddress := "127.0.0.1:8888"
  folder := some "databases"

/-- The most bytes that a command line may have. -/
def Settings.lineLimit : Nat :=
  65536

end Rowbase
